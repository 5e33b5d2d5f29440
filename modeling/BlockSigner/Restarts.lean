import BlockSigner.Ledger

/-! # Restarts and lost replies

The last block that was accepted is only held in memory. A loop that is started
again does not know it, and a loop whose reply got lost does not know it either,
so both can sign a block again that the node has entered already. They can do so
only at once, before another block is entered, and only once for each restart
and each lost reply.
-/

namespace Protocol

variable {Seed Block Signature τ ε : Type*}

/-- A node that may lose replies, but offers only a block that was never entered,
    or the one entered last. -/
structure Advancing (node : Node Seed Block Signature τ) (ledger : τ → List Block) : Prop extends
    Records node ledger where
  advances : ∀ {seed t block t'}, node.submitSeed seed t (some block) t' →
    block ∉ ledger t' ∨ (ledger t').getLast? = some block

/-- Entries that are these blocks, with so many repeats of the entry before. -/
inductive Repeats : Nat → List Block → List Block → Prop where
  | nil : Repeats 0 [] []
  | new {n : Nat} {entries blocks : List Block} {block : Block} :
      Repeats n entries blocks → block ∉ entries → Repeats n (entries ++ [block]) (blocks ++ [block])
  | again {n : Nat} {entries blocks : List Block} {block : Block} :
      Repeats n entries blocks → entries.getLast? = some block →
      Repeats (n + 1) (entries ++ [block]) blocks

variable {n : Nat} {entries blocks : List Block}

theorem Repeats.sublist (repeats : Repeats n entries blocks) : blocks.Sublist entries := by
  induction repeats with
  | nil => exact .slnil
  | new _ _ ih => exact ih.append (List.Sublist.refl _)
  | again _ _ ih => exact ih.trans (List.sublist_append_left _ _)

theorem Repeats.nodup (repeats : Repeats n entries blocks) : blocks.Nodup := by
  induction repeats with
  | nil => exact List.nodup_nil
  | new before fresh ih =>
      have fresh' := fun member => fresh (before.sublist.subset member)
      exact List.nodup_append.mpr ⟨ih, List.nodup_singleton _, by grind⟩
  | again _ _ ih => exact ih

theorem Repeats.length (repeats : Repeats n entries blocks) :
    entries.length = blocks.length + n := by
  induction repeats with
  | nil => rfl
  | new _ _ ih | again _ _ ih =>
      simp only [List.length_append, List.length_singleton]
      omega

/-- What an advancing node offers can be entered. -/
theorem Repeats.enter {block : Block} (repeats : Repeats n entries blocks)
    (offer : block ∉ entries ∨ entries.getLast? = some block) :
    ∃ n' blocks', Repeats n' (entries ++ [block]) blocks' ∧
      (n' = n ∨ n' = n + 1 ∧ entries.getLast? = some block) := by
  rcases offer with new | known
  · exact ⟨n, _, .new repeats new, .inl rfl⟩
  · exact ⟨n + 1, _, .again repeats known, .inr ⟨rfl, known⟩⟩

variable {node : Node Seed Block Signature τ} {staker : Staker Seed Block Signature ε}
  {ledger : τ → List Block} {last : Option Block} {t t' : τ} {accepted restarts : Nat}
  {round : Round Seed Block Signature ε} {rounds : List (Round Seed Block Signature ε)}

/-- Every repeat is paid for by a restart or by an entry that was not reported
    accepted, and one more of these is left while the staker does not know the
    last entry. -/
def Paid (ledger : τ → List Block) (last : Option Block) (t : τ) (accepted restarts : Nat) : Prop :=
  ∃ n blocks, Repeats n (ledger t) blocks ∧ n + accepted ≤ (ledger t).length + restarts ∧
    (last = (ledger t).getLast? ∨ n + accepted < (ledger t).length + restarts)

theorem Paid.unchanged (paid : Paid ledger last t accepted restarts) (same : ledger t' = ledger t) :
    Paid ledger last t' (accepted + 0) restarts := by
  unfold Paid
  rw [same]
  exact paid

/-- A loop that starts knows no last block, whatever it knew when it stopped. -/
theorem Paid.restart (paid : Paid ledger last t accepted restarts) :
    Paid ledger none t accepted (restarts + 1) := by
  obtain ⟨n, blocks, repeats, enough, _⟩ := paid
  exact ⟨n, blocks, repeats, by omega, .inr (by omega)⟩

section Entry

variable {block : Block} (paid : Paid ledger last t accepted restarts) (fresh : last ≠ some block)
  (offer : block ∉ ledger t ∨ (ledger t).getLast? = some block)
  (entered : ledger t' = ledger t ++ [block])

include paid fresh offer entered

theorem Paid.accept : Paid ledger (some block) t' (accepted + 1) restarts := by
  obtain ⟨n, blocks, repeats, enough, known⟩ := paid
  obtain ⟨n', blocks', repeats', more⟩ := repeats.enter offer
  refine ⟨n', blocks', entered ▸ repeats', ?_, .inl ?_⟩
  · rw [entered, List.length_append, List.length_singleton]
    grind
  · rw [entered, List.getLast?_concat]

theorem Paid.lose : Paid ledger last t' (accepted + 0) restarts := by
  obtain ⟨n, blocks, repeats, enough, known⟩ := paid
  obtain ⟨n', blocks', repeats', more⟩ := repeats.enter offer
  have length : (ledger t').length = (ledger t).length + 1 := by
    rw [entered, List.length_append, List.length_singleton]
  have paid' : n' + accepted < (ledger t').length + restarts := by grind
  exact ⟨n', blocks', entered ▸ repeats', by omega, .inr paid'⟩

end Entry

theorem Advancing.plays_paid (advancing : Advancing node ledger)
    (paid : Paid ledger last t accepted restarts) (plays : Plays node staker last t round t') :
    Paid ledger round.last t' (accepted + round.accepted.length) restarts := by
  cases plays with
  | noSeed asked _ | seedFailed asked _ => exact paid.unchanged (advancing.getSeed asked)
  | noBlock asked _ offered | alreadySubmitted asked _ offered _
  | signFailed asked _ offered _ _ =>
      exact paid.unchanged ((advancing.submitSeed offered).trans (advancing.getSeed asked))
  | notAccepted asked _ offered fresh _ refused =>
      have kept := (advancing.submitSeed offered).trans (advancing.getSeed asked)
      have offer := advancing.advances offered
      have entered := advancing.lost refused
      rw [kept] at entered offer
      rcases entered with same | entered
      · exact paid.unchanged same
      · exact paid.lose fresh offer entered
  | submitted asked _ offered fresh _ reported =>
      have kept := (advancing.submitSeed offered).trans (advancing.getSeed asked)
      have offer := advancing.advances offered
      have entered := advancing.accepted reported
      rw [kept] at entered offer
      exact paid.accept fresh offer entered

theorem Advancing.rounds_paid (advancing : Advancing node ledger)
    (paid : Paid ledger last t accepted restarts) (played : Rounds node staker last t rounds t') :
    ∃ last', Paid ledger last' t' (accepted + (rounds.flatMap Round.accepted).length) restarts := by
  induction played generalizing accepted with
  | nil => exact ⟨_, paid⟩
  | cons plays _ ih =>
      rw [List.flatMap_cons, List.length_append, ← Nat.add_assoc]
      exact ih (advancing.plays_paid paid plays)

end Protocol

namespace BlockSigner

variable {lib : Libraries} {σ τ : Type} {server : Server σ} {signer : Signer lib}
  {node : Protocol.Node Bytes Bytes Bytes τ} {R : σ → τ → Prop} {ledger : τ → List Bytes}
  {s s' : σ} {t : τ}

/-- What the sessions hold for acknowledged, one session after the other. -/
def sessionAcknowledgements (signer : Signer lib) (sessions : List (List Turn)) : List Bytes :=
  sessions.flatMap fun turns => acknowledgements signer (run signer turns)

def sessionCalls (signer : Signer lib) (sessions : List (List Turn)) : List (Text × CurlRun) :=
  sessions.flatMap fun turns => (run signer turns).flatMap Iteration.calls

theorem Serves.session (serves : Serves signer server node R) (gson : GsonContract lib)
    (advancing : Protocol.Advancing node ledger) {turns : List Turn} {accepted restarts : Nat}
    (related : R s t) (paid : Protocol.Paid ledger none t accepted restarts)
    (served : Served server s ((run signer turns).flatMap Iteration.calls) s') :
    ∃ t' last signed, R s' t' ∧
      Protocol.Paid ledger last t'
        (accepted + (acknowledgements signer (run signer turns)).length) restarts ∧
      Protocol.Agrees ledger (acknowledgements signer (run signer turns)) signed t t' := by
  obtain ⟨rounds, t', played, related', same⟩ := serves.runFrom gson related served
  have same : List.Forall₂ (Matches signer) (run signer turns) rounds := same
  obtain ⟨last, paid'⟩ := advancing.rounds_paid paid played
  rw [acknowledgements_eq_accepted same]
  exact ⟨t', last, _, related', paid', advancing.rounds_agree played⟩

theorem Serves.sessions (serves : Serves signer server node R) (gson : GsonContract lib)
    (advancing : Protocol.Advancing node ledger) {sessions : List (List Turn)} {last : Option Bytes}
    {accepted restarts : Nat} (related : R s t)
    (paid : Protocol.Paid ledger last t accepted restarts)
    (served : Served server s (sessionCalls signer sessions) s') :
    ∃ t' last' signed, R s' t' ∧
      Protocol.Paid ledger last' t'
        (accepted + (sessionAcknowledgements signer sessions).length) (restarts + sessions.length) ∧
      Protocol.Agrees ledger (sessionAcknowledgements signer sessions) signed t t' := by
  induction sessions generalizing s t last accepted restarts with
  | nil =>
      cases served
      exact ⟨t, last, [], related, paid, .unchanged rfl⟩
  | cons turns sessions ih =>
      rw [sessionCalls, List.flatMap_cons] at served
      obtain ⟨s₁, first, rest⟩ := served.split
      obtain ⟨t₁, last₁, signed, related₁, paid₁, agrees⟩ :=
        serves.session gson advancing related paid.restart first
      obtain ⟨t', last', signed', related', paid', agrees'⟩ := ih related₁ paid₁ rest
      rw [sessionAcknowledgements, List.flatMap_cons, List.length_append, List.length_cons,
        ← Nat.add_assoc, Nat.add_comm sessions.length 1, ← Nat.add_assoc]
      exact ⟨t', last', signed ++ signed', related', paid', agrees.append agrees'⟩

/-- However often the loop is started again and whatever replies get lost, entries
    of one block follow one another, and there are no more repeats than restarts and
    entries that were not acknowledged. -/
theorem restarts_ledger (gson : GsonContract lib) (serves : Serves signer server node R)
    (advancing : Protocol.Advancing node ledger) (fresh : ledger t = []) (related : R s t)
    {sessions : List (List Turn)} (served : Served server s (sessionCalls signer sessions) s') :
    ∃ t' n blocks, R s' t' ∧ Protocol.Repeats n (ledger t') blocks ∧ blocks.Nodup ∧
      (sessionAcknowledgements signer sessions).Sublist (ledger t') ∧
      n + (sessionAcknowledgements signer sessions).length ≤
        (ledger t').length + (sessions.length - 1) := by
  have start : Protocol.Paid ledger none t 0 0 := by
    unfold Protocol.Paid
    rw [fresh]
    exact ⟨0, [], .nil, le_rfl, .inl rfl⟩
  cases sessions with
  | nil =>
      cases served
      obtain ⟨n, blocks, repeats, enough, _⟩ := start
      exact ⟨t, n, blocks, related, repeats, repeats.nodup, List.nil_sublist _, enough⟩
  | cons turns sessions =>
      rw [sessionCalls, List.flatMap_cons] at served
      obtain ⟨s₁, first, rest⟩ := served.split
      obtain ⟨t₁, _, _, related₁, paid₁, agrees⟩ :=
        serves.session gson advancing related start first
      obtain ⟨t', _, _, related', paid', agrees'⟩ := serves.sessions gson advancing related₁ paid₁ rest
      obtain ⟨entered, split, least, _⟩ := agrees.append agrees'
      obtain ⟨n, blocks, repeats, enough, _⟩ := paid'
      rw [sessionAcknowledgements, List.flatMap_cons]
      refine ⟨t', n, blocks, related', repeats, repeats.nodup, ?_, ?_⟩
      · rw [split, fresh, List.nil_append]
        exact least
      · rw [List.length_append, List.length_cons, Nat.add_sub_cancel]
        rw [Nat.zero_add, Nat.zero_add] at enough
        exact enough

namespace Reference

theorem node_advancing : Protocol.Advancing Reference.node Chain.blocks where
  toRecords := node_records
  advances := node_reliable.advances

/-- Two sessions of the same length. -/
theorem sessions_served (n : Nat) :
    ∃ sessions chain, sessions.length = 2 ∧ (∀ turns ∈ sessions, turns.length = n) ∧
      Served (nodeServer Reference.node) Chain.genesis
        (sessionCalls Reference.signer sessions) chain := by
  have total := nodeServer_total node_total
  obtain ⟨turns, chain, length, served⟩ := total.runFrom Reference.signer none Chain.genesis n
  obtain ⟨turns', chain', length', served'⟩ := total.runFrom Reference.signer none chain n
  refine ⟨[turns, turns'], chain', rfl, by simp [length, length'], ?_⟩
  simp only [sessionCalls, List.flatMap_cons, List.flatMap_nil, List.append_nil]
  exact served.append served'

end Reference

/-- The loop is started twice, for two iterations each. -/
theorem restarts_ledger_chain :
    ∃ (sessions : List (List Turn)) (chain : Reference.Chain) (n : Nat) (blocks : List Bytes),
      sessions.length = 2 ∧ (∀ turns ∈ sessions, turns.length = 2) ∧
        Protocol.Repeats n chain.blocks blocks ∧ blocks.Nodup ∧
        (sessionAcknowledgements Reference.signer sessions).Sublist chain.blocks ∧
        n + (sessionAcknowledgements Reference.signer sessions).length ≤ chain.blocks.length + 1 := by
  obtain ⟨sessions, _, two, lengths, served⟩ := Reference.sessions_served 2
  obtain ⟨chain, n, blocks, _, repeats, nodup, acknowledged, enough⟩ := restarts_ledger Reference.gson
    (nodeServer_serves Reference.signer Reference.node) Reference.node_advancing rfl rfl served
  rw [two] at enough
  exact ⟨sessions, chain, n, blocks, two, lengths, repeats, nodup, acknowledged, enough⟩

end BlockSigner
