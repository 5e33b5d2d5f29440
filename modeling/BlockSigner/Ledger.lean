import BlockSigner.Refinement

/-! # What a node makes of a run

The results on the protocol, read on runs of the loop: how the ledger of the node
relates to what the loop holds for accepted and to what it signed, and how far a
node that waits for the loop gets.
-/

namespace BlockSigner

variable {lib : Libraries} {σ τ : Type} {server : Server σ} {signer : Signer lib}
  {node : Protocol.Node Bytes Bytes Bytes τ} {R : σ → τ → Prop} {ledger : τ → List Bytes}
  {turns : List Turn} {s s' : σ} {t : τ}

theorem acknowledgements_eq_accepted {iterations : List Iteration}
    {rounds : List (Protocol.Round Bytes Bytes Bytes JavaException)}
    (same : List.Forall₂ (Matches signer) iterations rounds) :
    acknowledgements signer iterations = rounds.flatMap Protocol.Round.accepted := by
  induction same with
  | nil => rfl
  | cons first _ ih =>
      rw [acknowledgements, List.flatMap_cons, List.flatMap_cons, first.accepted]
      exact congrArg _ ih

theorem submissions_eq_signed {iterations : List Iteration}
    {rounds : List (Protocol.Round Bytes Bytes Bytes JavaException)}
    (same : List.Forall₂ (Matches signer) iterations rounds) :
    iterations.flatMap Iteration.submissions = rounds.flatMap Protocol.Round.signed := by
  induction same with
  | nil => rfl
  | cons first _ ih => rw [List.flatMap_cons, List.flatMap_cons, first.signed, ih]

theorem matches_exists {iterations : List Iteration}
    {rounds : List (Protocol.Round Bytes Bytes Bytes JavaException)}
    (same : List.Forall₂ (Matches signer) iterations rounds) {iteration : Iteration}
    (member : iteration ∈ iterations) : ∃ round ∈ rounds, Matches signer iteration round := by
  induction same with
  | nil => cases member
  | cons first _ ih =>
      rcases List.mem_cons.mp member with rfl | member
      · exact ⟨_, List.mem_cons_self, first⟩
      · obtain ⟨round, found, matched⟩ := ih member
        exact ⟨round, List.mem_cons_of_mem _ found, matched⟩

/-! ## The ledger -/

/-- Over a whole run the blocks that entered the ledger lie between those that
    the loop holds for acknowledged and those it submitted a signature for, in the
    same order, also where replies get lost. -/
theorem run_ledger (gson : GsonContract lib) (serves : Serves signer server node R)
    (records : Protocol.Records node ledger) (related : R s t)
    (served : Served server s ((run signer turns).flatMap Iteration.calls) s') :
    ∃ t', R s' t' ∧ Protocol.Agrees ledger (acknowledgements signer (run signer turns))
      ((run signer turns).flatMap Iteration.submissions) t t' := by
  obtain ⟨rounds, t', played, related', same⟩ := serves.runFrom gson related served
  refine ⟨t', related', ?_⟩
  have same : List.Forall₂ (Matches signer) (run signer turns) rounds := same
  rw [acknowledgements_eq_accepted same, submissions_eq_signed same]
  exact records.rounds_agree played

/-- Without lost replies, and with an empty ledger at the start, the ledger is
    what the loop holds for acknowledged, and no block is in it twice. -/
theorem run_ledger_once (gson : GsonContract lib) (serves : Serves signer server node R)
    (reliable : Protocol.Reliable node ledger) (fresh : ledger t = []) (related : R s t)
    (served : Served server s ((run signer turns).flatMap Iteration.calls) s') :
    ∃ t', R s' t' ∧ ledger t' = acknowledgements signer (run signer turns) ∧ (ledger t').Nodup := by
  obtain ⟨rounds, t', played, related', same⟩ := serves.runFrom gson related served
  have same : List.Forall₂ (Matches signer) (run signer turns) rounds := same
  have inStep : Protocol.InStep ledger none t := ⟨by rw [fresh]; rfl, by rw [fresh]; simp⟩
  obtain ⟨entered, nodup⟩ := reliable.rounds_once inStep played
  refine ⟨t', related', ?_, nodup⟩
  rw [entered, fresh, acknowledgements_eq_accepted same, List.nil_append]

namespace Reference

theorem node_records : Protocol.Records Reference.node Chain.blocks where
  getSeed := by
    rintro t reply t' ⟨_, rfl⟩
    rfl
  submitSeed := by
    rintro seed t reply t' (⟨_, _, rfl⟩ | ⟨_, _, rfl⟩)
    · rfl
    · rfl
  accepted := by
    rintro signature block t t' (⟨seed, _, _, rfl⟩ | ⟨_, refused, _⟩)
    · rfl
    · cases refused
  lost := by
    rintro signature block t t' (⟨seed, _, accepted, _⟩ | ⟨_, _, rfl⟩)
    · cases accepted
    · exact .inl rfl

theorem node_reliable : Protocol.Reliable Reference.node Chain.blocks where
  toRecords := node_records
  refused := by
    rintro signature block t t' (⟨seed, _, accepted, _⟩ | ⟨_, _, rfl⟩)
    · cases accepted
    · rfl
  advances := by
    rintro seed t block t' (⟨_, offered, rfl⟩ | ⟨_, refused, _⟩)
    · cases offered
      exact .inl t.next_fresh
    · cases refused

end Reference

theorem run_ledger_chain :
    ∃ turns chain, turns.length = 3 ∧
      Protocol.Agrees Reference.Chain.blocks
        (acknowledgements Reference.signer (run Reference.signer turns))
        ((run Reference.signer turns).flatMap Iteration.submissions) Reference.Chain.genesis chain := by
  obtain ⟨turns, _, length, served⟩ := Reference.node_served 3
  obtain ⟨chain, _, agrees⟩ := run_ledger Reference.gson
    (nodeServer_serves Reference.signer Reference.node) Reference.node_records rfl served
  exact ⟨turns, chain, length, agrees⟩

theorem run_ledger_once_chain :
    ∃ (turns : List Turn) (chain : Reference.Chain), turns.length = 3 ∧
      chain.blocks = acknowledgements Reference.signer (run Reference.signer turns) ∧
      chain.blocks.Nodup := by
  obtain ⟨turns, _, length, served⟩ := Reference.node_served 3
  obtain ⟨chain, _, same, nodup⟩ := run_ledger_once Reference.gson
    (nodeServer_serves Reference.signer Reference.node) Reference.node_reliable rfl rfl served
  exact ⟨turns, chain, length, same, nodup⟩

/-! ## Progress -/

section Progress

variable {verifies : Bytes → Bytes → Bytes → Prop}

/-- With libraries that keep their contracts the loop can go on from every seed
    of a listed shape, and sign every block. -/
theorem Signer.staker_competent (keys : KeyContract lib) (signing : SigningTotal lib)
    (signatures : SignatureContract lib verifies) (vrf : VrfContract lib) (signer : Signer lib) :
    Protocol.Competent signer.staker HasNext
      (VerifiesLink lib verifies signer.stakerPrivateKey.getPublicKeyBytes)
      (verifies signer.stakerPrivateKey.getPublicKeyBytes) where
  nextSeed := by
    intro oldSeed shape
    obtain ⟨seed, derived, link⟩ :=
      getNextSeed_link keys signing signatures vrf signer.stakerPrivateKey shape
    exact ⟨seed, derived, link, link.hasNext⟩
  sign := by
    intro block
    obtain ⟨signature, signed, _⟩ := signing signer.stakerPrivateKey.derived block
    exact ⟨signature, signed, signatures signer.stakerPrivateKey.derived signed⟩

theorem seedChain_shift (key : PrivateKey lib) {oldSeed seed : Bytes}
    (derived : getNextSeed lib key (some oldSeed) = .ok (some seed)) (n : Nat) :
    seedChain key oldSeed (n + 1) = seedChain key seed n := by
  induction n with
  | zero => exact derived
  | succ n ih =>
      change (seedChain key oldSeed (n + 1) >>= getNextSeed lib key) = _
      rw [ih]
      rfl

theorem seedChain_of_follows {oldSeed seed : Bytes} {n : Nat}
    (follows : Protocol.Follows signer.staker oldSeed n seed) :
    seedChain signer.stakerPrivateKey oldSeed n = .ok (some seed) := by
  induction follows with
  | refl => rfl
  | next derived _ ih => rw [seedChain_shift _ derived, ih]

/-- With a node that waits for it the loop never fails and never gives up: every
    iteration submits its block or finds it submitted, and the seed of the node
    has moved along the chain by one link for each acknowledged block. -/
theorem run_progress (gson : GsonContract lib) (keys : KeyContract lib) (signing : SigningTotal lib)
    (signatures : SignatureContract lib verifies) (vrf : VrfContract lib)
    (serves : Serves signer server node R) {current : τ → Bytes} {offer : τ → Option (Bytes × Bytes)}
    (cooperates : Protocol.Cooperates node current offer
      (VerifiesLink lib verifies signer.stakerPrivateKey.getPublicKeyBytes)
      (verifies signer.stakerPrivateKey.getPublicKeyBytes))
    (shape : HasNext (current t)) (related : R s t)
    (served : Served server s ((run signer turns).flatMap Iteration.calls) s') :
    (∀ iteration ∈ run signer turns,
      iteration.exit = .ok .submitted ∨ iteration.exit = .ok .alreadySubmitted) ∧
    ∃ t', R s' t' ∧ seedChain signer.stakerPrivateKey (current t)
      (acknowledgements signer (run signer turns)).length = .ok (some (current t')) := by
  obtain ⟨rounds, t', played, related', same⟩ := serves.runFrom gson related served
  have same : List.Forall₂ (Matches signer) (run signer turns) rounds := same
  have competent := signer.staker_competent keys signing signatures vrf
  obtain ⟨settled, follows⟩ := cooperates.rounds_settled competent shape played
  constructor
  · intro iteration member
    obtain ⟨round, found, matched⟩ := matches_exists same member
    rw [matched.exit]
    rcases settled round found with ends | ends
    · exact .inl (by rw [ends]; rfl)
    · exact .inr (by rw [ends]; rfl)
  · refine ⟨t', related', ?_⟩
    rw [acknowledgements_eq_accepted same]
    exact seedChain_of_follows follows

namespace Reference

def Chain.offer (chain : Chain) : Option (Bytes × Bytes) :=
  chain.pending.map fun seed => (seed, chain.next)

theorem node_cooperates : Protocol.Cooperates Reference.node Chain.seed Chain.offer
    (VerifiesLink referenceLibraries Reference.verifies key.getPublicKeyBytes)
    (Reference.verifies key.getPublicKeyBytes) where
  getSeed := by
    rintro t reply t' ⟨rfl, rfl⟩
    exact ⟨rfl, rfl⟩
  submitSeed := by
    rintro seed t reply t' (⟨_, rfl, rfl⟩ | ⟨unlinked, _, _⟩) links
    · exact ⟨rfl, _, rfl, rfl⟩
    · exact absurd links unlinked
  submitSignature := by
    rintro seed signature block t accepted t' moved offered verified
    obtain ⟨pending, open_, same⟩ := Option.map_eq_some_iff.mp offered
    cases same
    rcases moved with ⟨other, ⟨found, _, _⟩, rfl, rfl⟩ | ⟨refused, _, _⟩
    · rw [open_] at found
      cases found
      exact ⟨rfl, rfl⟩
    · exact absurd ⟨seed, open_, rfl, verified⟩ refused

end Reference

/-- Three iterations from 64 zero bytes. -/
theorem run_progress_chain :
    ∃ (turns : List Turn) (chain : Reference.Chain), turns.length = 3 ∧
      (∀ iteration ∈ run Reference.signer turns,
        iteration.exit = .ok .submitted ∨ iteration.exit = .ok .alreadySubmitted) ∧
      seedChain Reference.key (List.replicate 64 0)
        (acknowledgements Reference.signer (run Reference.signer turns)).length =
          .ok (some chain.seed) := by
  obtain ⟨turns, _, length, served⟩ := Reference.node_served 3
  obtain ⟨settled, chain, _, reached⟩ := run_progress Reference.gson Reference.keys
    Reference.signing Reference.signatures Reference.vrf
    (nodeServer_serves Reference.signer Reference.node) Reference.node_cooperates (.inl rfl) rfl
    served
  exact ⟨turns, chain, length, settled, reached⟩

end Progress

end BlockSigner
