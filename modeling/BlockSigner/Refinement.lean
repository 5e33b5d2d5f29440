import BlockSigner.Protocol
import BlockSigner.SeedChain
import BlockSigner.Submission
import BlockSigner.Wire

/-! # The loop as a staker

A run takes the answers of curl as they come. Here they come from a server that
sees nothing but payloads, and the server stands for a node of the protocol. The
loop is then a staker of that protocol, round for round, whatever the layout of
the responses.
-/

namespace BlockSigner

variable {lib : Libraries} {σ τ : Type}

/-! ## Served runs -/

/-- The runs of curl that a payload can get in a state, and the states they leave. -/
abbrev Server (σ : Type) := Text → σ → CurlRun → σ → Prop

/-- The calls are answered by the server, one after the other. -/
inductive Served (server : Server σ) : σ → List (Text × CurlRun) → σ → Prop where
  | nil {s : σ} : Served server s [] s
  | cons {payload : Text} {answer : CurlRun} {calls : List (Text × CurlRun)} {s s' s'' : σ} :
      server payload s answer s' → Served server s' calls s'' →
      Served server s ((payload, answer) :: calls) s''

variable {server : Server σ}

theorem Served.split {s s'' : σ} {before after : List (Text × CurlRun)}
    (served : Served server s (before ++ after) s'') :
    ∃ s', Served server s before s' ∧ Served server s' after s'' := by
  induction before generalizing s with
  | nil => exact ⟨s, .nil, served⟩
  | cons call before ih =>
      cases served with
      | cons answered rest =>
          obtain ⟨s', first, last⟩ := ih rest
          exact ⟨s', .cons answered first, last⟩

theorem Served.append {s s' s'' : σ} {before after : List (Text × CurlRun)}
    (first : Served server s before s') (rest : Served server s' after s'') :
    Served server s (before ++ after) s'' := by
  induction first with
  | nil => exact rest
  | cons answered _ ih => exact .cons answered (ih rest)

theorem Served.one {payload : Text} {answer : CurlRun} {s s' : σ}
    (served : Served server s [(payload, answer)] s') : server payload s answer s' := by
  obtain _ | ⟨answered, _ | _⟩ := served
  exact answered

theorem Served.head {payload : Text} {answer : CurlRun} {calls : List (Text × CurlRun)} {s s'' : σ}
    (served : Served server s ((payload, answer) :: calls) s'') :
    ∃ s', server payload s answer s' ∧ Served server s' calls s'' := by
  obtain _ | ⟨answered, rest⟩ := served
  exact ⟨_, answered, rest⟩

/-! ## Rounds of the code -/

def Signer.staker (signer : Signer lib) : Protocol.Staker Bytes Bytes Bytes JavaException where
  nextSeed := getNextSeed lib signer.stakerPrivateKey
  sign := signer.sign

/-- The call that makes a request. -/
def Signer.rpcCall (signer : Signer lib) : Protocol.Request Bytes Bytes Bytes → RpcCall
  | .getSeed => .getSeed
  | .submitSeed seed =>
      .submitSeed seed signer.stakerPrivateKey.getPublicKeyBytes signer.coinbase.toByteArray
  | .submitSignature signature block => .submitSignature signature block

def Branch.ofEnding : Protocol.Ending JavaException → Branch
  | .noSeed => .noSeed
  | .noBlock => .noBlock
  | .alreadySubmitted => .alreadySubmitted
  | .notAccepted => .notAccepted
  | .submitted => .submitted
  | .failed e => .caught e

/-- The block hash of a submitsignature call. -/
def submission (call : Text × CurlRun) : Option Bytes :=
  match RpcCall.decode call.1 with
  | some (.submitSignature _ blockHash) => some blockHash
  | _ => none

def Iteration.submissions (iteration : Iteration) : List Bytes :=
  iteration.calls.filterMap submission

/-- An iteration made the requests of the round, ended in its branch and left its
    block, and node and staker agree on what was accepted. -/
structure Matches (signer : Signer lib) (iteration : Iteration)
    (round : Protocol.Round Bytes Bytes Bytes JavaException) : Prop where
  requests : iteration.calls.map (fun call => RpcCall.decode call.1) =
    round.requests.map fun request => some (signer.rpcCall request)
  exit : iteration.exit = .ok (Branch.ofEnding round.ending)
  after : iteration.after = round.last
  accepted : iteration.acknowledgements signer = round.accepted

theorem Matches.signed {signer : Signer lib} {iteration : Iteration}
    {round : Protocol.Round Bytes Bytes Bytes JavaException} (same : Matches signer iteration round) :
    iteration.submissions = round.signed := by
  have read : ∀ calls : List (Text × CurlRun), calls.filterMap submission =
      (calls.map fun call => RpcCall.decode call.1).filterMap fun
        | some (.submitSignature _ blockHash) => some blockHash
        | _ => none := by
    intro calls
    rw [List.filterMap_map]
    rfl
  rw [Iteration.submissions, read, same.requests, List.filterMap_map, Protocol.Round.signed]
  congr 1
  funext request
  cases request <;> rfl

/-! ## Servers of a node -/

/-- The server answers each call as the node answers the request it makes; `R`
    relates their states. -/
structure Serves (signer : Signer lib) (server : Server σ) (node : Protocol.Node Bytes Bytes Bytes τ)
    (R : σ → τ → Prop) : Prop where
  getSeed : ∀ {payload s answer s' t}, R s t → server payload s answer s' →
    RpcCall.decode payload = some .getSeed →
    ∃ reply t', node.getSeed t reply t' ∧ RepliesBytes answer reply ∧ R s' t'
  submitSeed : ∀ {payload seed s answer s' t}, R s t → server payload s answer s' →
    RpcCall.decode payload = some (.submitSeed seed signer.stakerPrivateKey.getPublicKeyBytes
      signer.coinbase.toByteArray) →
    ∃ reply t', node.submitSeed seed t reply t' ∧ RepliesBytes answer reply ∧ R s' t'
  submitSignature : ∀ {payload signature block s answer s' t}, R s t → server payload s answer s' →
    RpcCall.decode payload = some (.submitSignature signature block) →
    ∃ accepted t', node.submitSignature signature block t accepted t' ∧
      RepliesVerdict answer accepted ∧ R s' t'

section Simulation

variable {signer : Signer lib} {node : Protocol.Node Bytes Bytes Bytes τ} {R : σ → τ → Prop}
  {last : Option Bytes} {turn : Turn} {s s' : σ} {t : τ}

/-- The seed derived from an answer is the staker's. -/
theorem Serves.asked (serves : Serves signer server node R) (gson : GsonContract lib)
    {answer : CurlRun} (related : R s t) (answered : server Signer.getSeedPayload s answer s') :
    ∃ oldSeed t', node.getSeed t oldSeed t' ∧ R s' t' ∧
      signer.derivedSeed answer = signer.staker.nextSeed oldSeed := by
  obtain ⟨oldSeed, t', moved, replies, related'⟩ :=
    serves.getSeed related answered decode_getSeedPayload
  refine ⟨oldSeed, t', moved, related', ?_⟩
  rw [Signer.derivedSeed, RPC.bytesAnswer_of_replies gson signer.rpc replies]
  rfl

theorem Serves.offered (serves : Serves signer server node R) (gson : GsonContract lib)
    {seed : Bytes} {answer : CurlRun} {result : Except JavaException (Option Bytes)} (related : R s t)
    (answered : server (signer.submitSeedPayload seed) s answer s')
    (read : signer.rpc.bytesAnswer lib answer = result) :
    ∃ block t', result = .ok block ∧ node.submitSeed seed t block t' ∧ R s' t' := by
  obtain ⟨block, t', moved, replies, related'⟩ :=
    serves.submitSeed related answered (decode_submitSeedPayload signer seed)
  exact ⟨block, t', read.symm.trans (RPC.bytesAnswer_of_replies gson signer.rpc replies), moved,
    related'⟩

theorem Serves.judged (serves : Serves signer server node R) (gson : GsonContract lib)
    {signature block : Bytes} {answer : CurlRun} {result : Except JavaException (Option Text)}
    (related : R s t)
    (answered : server (Signer.submitSignaturePayload signature block) s answer s')
    (read : signer.rpc.answer lib answer = result) :
    ∃ text t', result = .ok text ∧
      node.submitSignature signature block t (parseBoolean text) t' ∧ R s' t' := by
  obtain ⟨accepted, t', moved, replies, related'⟩ :=
    serves.submitSignature related answered (decode_submitSignaturePayload signature block)
  obtain ⟨text, returned, rfl⟩ := RPC.answer_of_verdict gson signer.rpc replies
  exact ⟨text, t', read.symm.trans returned, moved, related'⟩

/-- What a pass has in common with a round. -/
structure PassMatches (signer : Signer lib) (calls : List (Text × CurlRun)) (branch : Branch)
    (after : Option Bytes) (round : Protocol.Round Bytes Bytes Bytes JavaException) : Prop where
  requests : calls.map (fun call => RpcCall.decode call.1) =
    round.requests.map fun request => some (signer.rpcCall request)
  branch : branch = Branch.ofEnding round.ending
  after : after = round.last
  accepted : calls.filterMap (acknowledged signer) = round.accepted

theorem PassMatches.asked (ending : Protocol.Ending JavaException) (answer : CurlRun)
    (other : ending ≠ .submitted) :
    PassMatches signer [(Signer.getSeedPayload, answer)] (.ofEnding ending) last
      ⟨[.getSeed], ending, last⟩ where
  requests := by simp [Signer.rpcCall]
  branch := rfl
  after := rfl
  accepted := by cases ending <;> simp_all [Protocol.Round.accepted]

theorem PassMatches.offered (ending : Protocol.Ending JavaException) (seed : Bytes)
    (answer answer' : CurlRun) (other : ending ≠ .submitted) :
    PassMatches signer [(Signer.getSeedPayload, answer), (signer.submitSeedPayload seed, answer')]
      (.ofEnding ending) last ⟨[.getSeed, .submitSeed seed], ending, last⟩ where
  requests := by simp [Signer.rpcCall]
  branch := rfl
  after := rfl
  accepted := by cases ending <;> simp_all [Protocol.Round.accepted]

theorem PassMatches.judged (ending : Protocol.Ending JavaException)
    (seed signature block : Bytes) (answer answer' : CurlRun) {answer'' : CurlRun}
    {text : Option Text} {accepted : Bool} {after : Option Bytes} (returned : signer.rpc.answer lib answer'' = .ok text)
    (verdict : parseBoolean text = accepted) (ends : accepted = true ↔ ending = .submitted) :
    PassMatches signer
      [(Signer.getSeedPayload, answer), (signer.submitSeedPayload seed, answer'),
        (Signer.submitSignaturePayload signature block, answer'')]
      (.ofEnding ending) after
      ⟨[.getSeed, .submitSeed seed, .submitSignature signature block], ending, after⟩ where
  requests := by simp [Signer.rpcCall]
  branch := rfl
  after := rfl
  accepted := by
    simp only [List.filterMap_cons, acknowledged_getSeed, acknowledged_submitSeed,
      acknowledged_submitSignature, returned, returnedTrue, verdict]
    by_cases submitted : ending = .submitted
    · rw [ends.mpr submitted, submitted]
      rfl
    · rw [Bool.eq_false_iff.mpr fun yes => submitted (ends.mp yes)]
      cases ending <;> simp_all [Protocol.Round.accepted]

/-- A pass that is served plays a round. -/
theorem Serves.pass (serves : Serves signer server node R) (gson : GsonContract lib)
    {calls : List (Text × CurlRun)} {branch : Branch} {after : Option Bytes} (related : R s t)
    (pass : Pass signer last turn calls branch after) (served : Served server s calls s') :
    ∃ round t', Protocol.Plays node signer.staker last t round t' ∧ R s' t' ∧
      PassMatches signer calls branch after round := by
  obtain ⟨rest, split⟩ : ∃ rest, calls = (Signer.getSeedPayload, turn 0) :: rest := by
    cases pass <;> exact ⟨_, rfl⟩
  rw [split] at served
  obtain ⟨s₁, first, served⟩ := served.head
  obtain ⟨oldSeed, t₁, asked, related₁, derives⟩ := serves.asked gson related first
  cases pass with
  | seedFailed derived =>
      cases split
      cases served
      rw [derives] at derived
      exact ⟨_, t₁, .seedFailed asked derived, related₁, .asked (.failed _) _ (by simp)⟩
  | noSeed derived =>
      cases split
      cases served
      rw [derives] at derived
      exact ⟨_, t₁, .noSeed asked derived, related₁, .asked .noSeed _ (by simp)⟩
  | submitSeedFailed derived answered =>
      cases split
      obtain ⟨_, _, ⟨⟩, _, _⟩ := serves.offered gson related₁ served.one answered
  | noBlock derived answered =>
      cases split
      obtain ⟨_, t₂, ⟨⟩, offered, related₂⟩ := serves.offered gson related₁ served.one answered
      rw [derives] at derived
      exact ⟨_, t₂, .noBlock asked derived offered, related₂, .offered .noBlock _ _ _ (by simp)⟩
  | alreadySubmitted derived answered same =>
      cases split
      obtain ⟨_, t₂, ⟨⟩, offered, related₂⟩ := serves.offered gson related₁ served.one answered
      rw [derives] at derived
      exact ⟨_, t₂, .alreadySubmitted asked derived offered same, related₂,
        .offered .alreadySubmitted _ _ _ (by simp)⟩
  | signFailed derived answered fresh failed =>
      cases split
      obtain ⟨_, t₂, ⟨⟩, offered, related₂⟩ := serves.offered gson related₁ served.one answered
      rw [derives] at derived
      exact ⟨_, t₂, .signFailed asked derived offered fresh failed, related₂,
        .offered (.failed _) _ _ _ (by simp)⟩
  | submitSignatureFailed derived answered fresh signed replied =>
      cases split
      obtain ⟨s₂, second, served⟩ := served.head
      obtain ⟨_, t₂, _, offered, related₂⟩ := serves.offered gson related₁ second answered
      obtain ⟨_, _, ⟨⟩, _, _⟩ := serves.judged gson related₂ served.one replied
  | notAccepted derived answered fresh signed replied refused =>
      cases split
      obtain ⟨s₂, second, served⟩ := served.head
      obtain ⟨_, t₂, ⟨⟩, offered, related₂⟩ := serves.offered gson related₁ second answered
      obtain ⟨_, t₃, ⟨⟩, judged, related₃⟩ := serves.judged gson related₂ served.one replied
      rw [derives] at derived
      rw [refused] at judged
      exact ⟨_, t₃, .notAccepted asked derived offered fresh signed judged, related₃,
        .judged .notAccepted _ _ _ _ _ replied refused (by simp)⟩
  | submitted derived answered fresh signed replied accepted =>
      cases split
      obtain ⟨s₂, second, served⟩ := served.head
      obtain ⟨_, t₂, ⟨⟩, offered, related₂⟩ := serves.offered gson related₁ second answered
      obtain ⟨_, t₃, ⟨⟩, judged, related₃⟩ := serves.judged gson related₂ served.one replied
      rw [derives] at derived
      rw [accepted] at judged
      exact ⟨_, t₃, .submitted asked derived offered fresh signed judged, related₃,
        .judged .submitted _ _ _ _ _ replied accepted (by simp)⟩

theorem Serves.iterate (serves : Serves signer server node R) (gson : GsonContract lib)
    (related : R s t) (served : Served server s (iterate signer last turn).calls s') :
    ∃ round t', Protocol.Plays node signer.staker last t round t' ∧ R s' t' ∧
      Matches signer (iterate signer last turn) round := by
  obtain ⟨branch, exit, pass⟩ := iterate_pass signer last turn
  obtain ⟨round, t', plays, related', same⟩ := serves.pass gson related pass served
  exact ⟨round, t', plays, related', same.requests, by rw [exit, same.branch], same.after,
    same.accepted⟩

theorem Serves.runFrom (serves : Serves signer server node R) (gson : GsonContract lib)
    {turns : List Turn} (related : R s t)
    (served : Served server s ((runFrom signer last turns).flatMap Iteration.calls) s') :
    ∃ rounds t', Protocol.Rounds node signer.staker last t rounds t' ∧ R s' t' ∧
      List.Forall₂ (Matches signer) (runFrom signer last turns) rounds := by
  induction turns generalizing last s t with
  | nil =>
      cases served
      exact ⟨[], t, .nil, related, .nil⟩
  | cons turn turns ih =>
      rw [runFrom_cons, List.flatMap_cons] at served
      obtain ⟨s₁, first, rest⟩ := served.split
      obtain ⟨round, t₁, plays, related₁, same⟩ := serves.iterate gson related first
      rw [same.after] at rest
      obtain ⟨rounds, t', played, related', all⟩ := ih related₁ rest
      refine ⟨round :: rounds, t', .cons plays played, related', ?_⟩
      rw [runFrom_cons, same.after]
      exact .cons same all

end Simulation

/-! ## Runs with a server exist -/

/-- A server that answers whatever it is sent. -/
def Server.Total (server : Server σ) : Prop := ∀ payload s, ∃ answer s', server payload s answer s'

section Existence

variable {signer : Signer lib}

/-- The payload of the second call, once the first is answered. -/
def Signer.secondPayload (signer : Signer lib) (answer : CurlRun) : Text :=
  match signer.derivedSeed answer with
  | .ok (some seed) => signer.submitSeedPayload seed
  | _ => []

def Signer.thirdPayload (signer : Signer lib) (answer : CurlRun) : Text :=
  match signer.rpc.bytesAnswer lib answer with
  | .ok (some blockHash) =>
      match signer.sign blockHash with
      | .ok signature => submitSignaturePayload signature blockHash
      | .error _ => []
  | _ => []

/-- Each payload is fixed by the answers before it, so a turn can be put together
    one answer at a time. -/
theorem Server.Total.turn (total : server.Total) (signer : Signer lib) (last : Option Bytes) (s : σ) :
    ∃ turn s', Served server s (iterate signer last turn).calls s' := by
  obtain ⟨first, s₁, asked⟩ := total Signer.getSeedPayload s
  obtain ⟨second, s₂, offered⟩ := total (signer.secondPayload first) s₁
  obtain ⟨third, s₃, judged⟩ := total (signer.thirdPayload second) s₂
  let turn : Turn := fun i => if i = 0 then first else if i = 1 then second else third
  obtain ⟨branch, _, pass⟩ := iterate_pass signer last turn
  refine ⟨turn, ?_⟩
  rcases pass.shape with one | ⟨seed, derived, two⟩ |
    ⟨seed, blockHash, signature, derived, answered, signed, three⟩
  · rw [one]
    exact ⟨s₁, .cons asked .nil⟩
  · rw [two]
    simp only [Signer.secondPayload, show signer.derivedSeed first = _ from derived] at offered
    exact ⟨s₂, .cons asked (.cons offered .nil)⟩
  · rw [three]
    simp only [Signer.secondPayload, show signer.derivedSeed first = _ from derived] at offered
    simp only [Signer.thirdPayload, show signer.rpc.bytesAnswer lib second = _ from answered,
      signed] at judged
    exact ⟨s₃, .cons asked (.cons offered (.cons judged .nil))⟩

/-- A server that always answers has runs of every length. -/
theorem Server.Total.runFrom (total : server.Total) (signer : Signer lib) (last : Option Bytes)
    (s : σ) (n : Nat) :
    ∃ turns s', turns.length = n ∧
      Served server s ((runFrom signer last turns).flatMap Iteration.calls) s' := by
  induction n generalizing last s with
  | zero => exact ⟨[], s, rfl, .nil⟩
  | succ n ih =>
      obtain ⟨turn, s₁, first⟩ := total.turn signer last s
      obtain ⟨turns, s', length, rest⟩ := ih (iterate signer last turn).after s₁
      refine ⟨turn :: turns, s', congrArg Nat.succ length, ?_⟩
      rw [runFrom_cons, List.flatMap_cons]
      exact first.append rest

end Existence

/-! ## A server for every node -/

/-- curl writes nothing. -/
def silentRun : CurlRun := ⟨0, .exited 0 []⟩

def bytesRun : Option Bytes → CurlRun
  | some bytes => Reference.resultRun (.str (RpcCall.hexText bytes))
  | none => silentRun

def verdictRun (accepted : Bool) : CurlRun := Reference.resultRun (.bool accepted)

/-- The node behind payloads and responses. What is no request of the protocol is
    refused. -/
def nodeServer (node : Protocol.Node Bytes Bytes Bytes τ) : Server τ := fun payload t answer t' =>
  match RpcCall.decode payload with
  | some .getSeed => ∃ reply, node.getSeed t reply t' ∧ answer = bytesRun reply
  | some (.submitSeed seed _ _) => ∃ reply, node.submitSeed seed t reply t' ∧ answer = bytesRun reply
  | some (.submitSignature signature block) =>
      ∃ accepted, node.submitSignature signature block t accepted t' ∧ answer = verdictRun accepted
  | _ => answer = silentRun ∧ t' = t

theorem resultRun_carriesJson {result : Json} (wellFormed : result.WellFormed) :
    Carries (Reference.resultRun result) result := by
  have object : Json.WellFormed (.obj [("result".toList, result)]) :=
    ⟨List.nodup_singleton _, wellFormed, trivial⟩
  refine .mk (Int.le_refl 0) rfl (Json.print_denotes _ object).document ?_ (Json.get_cons_self _ _ _)
  rw [Json.get_cons_ne (by simp), Json.get_nil]

theorem silentRun_refused : Refused silentRun := .silent rfl (by simp)

theorem bytesRun_replies (reply : Option Bytes) : RepliesBytes (bytesRun reply) reply := by
  cases reply with
  | some bytes => exact .data (resultRun_carriesJson trivial) (Hex.data_identifier bytes)
  | none => exact .refused silentRun_refused

theorem verdictRun_replies (accepted : Bool) : RepliesVerdict (verdictRun accepted) accepted :=
  .verdict (resultRun_carriesJson trivial)

theorem nodeServer_serves (signer : Signer lib) (node : Protocol.Node Bytes Bytes Bytes τ) :
    Serves signer (nodeServer node) node Eq where
  getSeed := by
    rintro payload s answer s' t rfl served decoded
    simp only [nodeServer, decoded] at served
    obtain ⟨reply, moved, rfl⟩ := served
    exact ⟨reply, s', moved, bytesRun_replies reply, rfl⟩
  submitSeed := by
    rintro payload seed s answer s' t rfl served decoded
    simp only [nodeServer, decoded] at served
    obtain ⟨reply, moved, rfl⟩ := served
    exact ⟨reply, s', moved, bytesRun_replies reply, rfl⟩
  submitSignature := by
    rintro payload signature block s answer s' t rfl served decoded
    simp only [nodeServer, decoded] at served
    obtain ⟨accepted, moved, rfl⟩ := served
    exact ⟨accepted, s', moved, verdictRun_replies accepted, rfl⟩

/-- A node that replies to every request has a server that answers everything. -/
theorem nodeServer_total {node : Protocol.Node Bytes Bytes Bytes τ} (replies : node.Total) :
    (nodeServer node).Total := by
  intro payload t
  unfold nodeServer
  match RpcCall.decode payload with
  | some .getSeed =>
      obtain ⟨reply, t', moved⟩ := replies.getSeed t
      exact ⟨_, t', reply, moved, rfl⟩
  | some (.submitSeed seed _ _) =>
      obtain ⟨reply, t', moved⟩ := replies.submitSeed seed t
      exact ⟨_, t', reply, moved, rfl⟩
  | some (.submitSignature signature block) =>
      obtain ⟨accepted, t', moved⟩ := replies.submitSignature signature block t
      exact ⟨_, t', accepted, moved, rfl⟩
  | some (.call _) => exact ⟨_, t, rfl, rfl⟩
  | none => exact ⟨_, t, rfl, rfl⟩

/-! ## The refinement -/

/-- Every run of the loop that a server of the node answers is a sequence of
    rounds of the protocol with that node: the same requests in the same order,
    the same endings, the same block last. -/
theorem run_refines {signer : Signer lib} {node : Protocol.Node Bytes Bytes Bytes τ}
    {R : σ → τ → Prop} {s s' : σ} {t : τ} (gson : GsonContract lib) (serves : Serves signer server node R)
    {turns : List Turn} (related : R s t)
    (served : Served server s ((run signer turns).flatMap Iteration.calls) s') :
    ∃ rounds t', Protocol.Rounds node signer.staker none t rounds t' ∧ R s' t' ∧
      List.Forall₂ (Matches signer) (run signer turns) rounds :=
  serves.runFrom gson related served

namespace Reference

/-- A chain that is extended with the blocks of one staker. -/
structure Chain where
  seed : Bytes
  blocks : List Bytes
  /-- the seed of the block on offer -/
  pending : Option Bytes

namespace Chain

def genesis : Chain := ⟨List.replicate 64 0, [], none⟩

/-- A hash that no block of the chain has. -/
def next (chain : Chain) : Bytes := List.replicate (chain.blocks.flatten.length + 32) 0

theorem next_fresh (chain : Chain) : chain.next ∉ chain.blocks := by
  intro member
  have long := (List.sublist_flatten_of_mem member).length_le
  simp only [next, List.length_replicate] at long
  omega

def Links (chain : Chain) (seed : Bytes) : Prop :=
  VerifiesLink referenceLibraries verifies key.getPublicKeyBytes chain.seed seed

/-- The signature is one on the block that is on offer for this seed. -/
def Seals (chain : Chain) (seed signature block : Bytes) : Prop :=
  chain.pending = some seed ∧ block = chain.next ∧ verifies key.getPublicKeyBytes block signature

end Chain

/-- It offers a block for a seed that is linked to its own, and seals it. -/
def node : Protocol.Node Bytes Bytes Bytes Chain where
  getSeed chain reply chain' := reply = some chain.seed ∧ chain' = chain
  submitSeed seed chain reply chain' :=
    chain.Links seed ∧ reply = some chain.next ∧ chain' = { chain with pending := some seed } ∨
      ¬ chain.Links seed ∧ reply = none ∧ chain' = chain
  submitSignature signature block chain accepted chain' :=
    (∃ seed, chain.Seals seed signature block ∧ accepted = true ∧
      chain' = ⟨seed, chain.blocks ++ [block], none⟩) ∨
      (¬ ∃ seed, chain.Seals seed signature block) ∧ accepted = false ∧ chain' = chain

theorem node_total : node.Total where
  getSeed chain := ⟨_, _, rfl, rfl⟩
  submitSeed seed chain := by
    by_cases links : chain.Links seed
    · exact ⟨_, _, .inl ⟨links, rfl, rfl⟩⟩
    · exact ⟨_, _, .inr ⟨links, rfl, rfl⟩⟩
  submitSignature signature block chain := by
    by_cases seals : ∃ seed, chain.Seals seed signature block
    · obtain ⟨seed, seals⟩ := seals
      exact ⟨_, _, .inl ⟨seed, seals, rfl, rfl⟩⟩
    · exact ⟨_, _, .inr ⟨seals, rfl, rfl⟩⟩

/-- Runs of every length that this node answers. -/
theorem node_served (n : Nat) :
    ∃ turns chain, turns.length = n ∧
      Served (nodeServer node) Chain.genesis ((run signer turns).flatMap Iteration.calls) chain :=
  (nodeServer_total node_total).runFrom signer none Chain.genesis n

end Reference

/-- Three iterations against the chain. -/
theorem run_refines_chain :
    ∃ turns rounds chain, turns.length = 3 ∧
      Protocol.Rounds Reference.node Reference.signer.staker none Reference.Chain.genesis rounds
        chain ∧
      List.Forall₂ (Matches Reference.signer) (run Reference.signer turns) rounds := by
  obtain ⟨turns, _, length, served⟩ := Reference.node_served 3
  obtain ⟨rounds, chain, played, _, same⟩ := run_refines Reference.gson
    (nodeServer_serves Reference.signer Reference.node) rfl served
  exact ⟨turns, rounds, chain, length, played, same⟩

end BlockSigner
