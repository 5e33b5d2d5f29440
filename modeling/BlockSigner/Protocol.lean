import Mathlib.Data.List.Nodup

/-! # A staker and its node

The exchange a signing loop is made for, without its texts: a staker asks for
the seed of the chain, submits the next one, and signs the block it is offered
for it unless that is the block it had accepted last. A node is any party that
serves these requests; between two of them its state moves as it likes, since
others talk to it as well.
-/

namespace Protocol

variable {Seed Block Signature τ ε : Type*}

/-! ## The parties -/

/-- Each request with the replies it can get and the states these leave. A
    refused request has no reply; a refused signature is not accepted. -/
structure Node (Seed Block Signature τ : Type*) where
  getSeed : τ → Option Seed → τ → Prop
  submitSeed : Seed → τ → Option Block → τ → Prop
  submitSignature : Signature → Block → τ → Bool → τ → Prop

/-- A node that replies to every request. -/
structure Node.Total (node : Node Seed Block Signature τ) : Prop where
  getSeed : ∀ t, ∃ reply t', node.getSeed t reply t'
  submitSeed : ∀ seed t, ∃ reply t', node.submitSeed seed t reply t'
  submitSignature : ∀ signature block t, ∃ accepted t',
    node.submitSignature signature block t accepted t'

structure Staker (Seed Block Signature ε : Type*) where
  nextSeed : Option Seed → Except ε (Option Seed)
  sign : Block → Except ε Signature

inductive Request (Seed Block Signature : Type*) where
  | getSeed
  | submitSeed (seed : Seed)
  | submitSignature (signature : Signature) (block : Block)

/-- How a round ends. -/
inductive Ending (ε : Type*) where
  | noSeed
  | noBlock
  | alreadySubmitted
  | notAccepted
  | submitted
  | failed (reason : ε)

/-- The requests of a round, its ending, and the block it leaves as the last one
    accepted. -/
structure Round (Seed Block Signature ε : Type*) where
  requests : List (Request Seed Block Signature)
  ending : Ending ε
  last : Option Block

/-! ## Rounds -/

/-- The rounds a staker can play with a node, from the last block it had
    accepted. -/
inductive Plays (node : Node Seed Block Signature τ) (staker : Staker Seed Block Signature ε)
    (last : Option Block) (t : τ) : Round Seed Block Signature ε → τ → Prop where
  | noSeed {oldSeed : Option Seed} {t₁ : τ} :
      node.getSeed t oldSeed t₁ → staker.nextSeed oldSeed = .ok none →
      Plays node staker last t ⟨[.getSeed], .noSeed, last⟩ t₁
  | seedFailed {oldSeed : Option Seed} {reason : ε} {t₁ : τ} :
      node.getSeed t oldSeed t₁ → staker.nextSeed oldSeed = .error reason →
      Plays node staker last t ⟨[.getSeed], .failed reason, last⟩ t₁
  | noBlock {oldSeed : Option Seed} {seed : Seed} {t₁ t₂ : τ} :
      node.getSeed t oldSeed t₁ → staker.nextSeed oldSeed = .ok (some seed) →
      node.submitSeed seed t₁ none t₂ →
      Plays node staker last t ⟨[.getSeed, .submitSeed seed], .noBlock, last⟩ t₂
  | alreadySubmitted {oldSeed : Option Seed} {seed : Seed} {block : Block} {t₁ t₂ : τ} :
      node.getSeed t oldSeed t₁ → staker.nextSeed oldSeed = .ok (some seed) →
      node.submitSeed seed t₁ (some block) t₂ → last = some block →
      Plays node staker last t ⟨[.getSeed, .submitSeed seed], .alreadySubmitted, last⟩ t₂
  | signFailed {oldSeed : Option Seed} {seed : Seed} {block : Block} {reason : ε} {t₁ t₂ : τ} :
      node.getSeed t oldSeed t₁ → staker.nextSeed oldSeed = .ok (some seed) →
      node.submitSeed seed t₁ (some block) t₂ → last ≠ some block →
      staker.sign block = .error reason →
      Plays node staker last t ⟨[.getSeed, .submitSeed seed], .failed reason, last⟩ t₂
  | notAccepted {oldSeed : Option Seed} {seed : Seed} {block : Block} {signature : Signature}
      {t₁ t₂ t₃ : τ} :
      node.getSeed t oldSeed t₁ → staker.nextSeed oldSeed = .ok (some seed) →
      node.submitSeed seed t₁ (some block) t₂ → last ≠ some block →
      staker.sign block = .ok signature → node.submitSignature signature block t₂ false t₃ →
      Plays node staker last t
        ⟨[.getSeed, .submitSeed seed, .submitSignature signature block], .notAccepted, last⟩ t₃
  | submitted {oldSeed : Option Seed} {seed : Seed} {block : Block} {signature : Signature}
      {t₁ t₂ t₃ : τ} :
      node.getSeed t oldSeed t₁ → staker.nextSeed oldSeed = .ok (some seed) →
      node.submitSeed seed t₁ (some block) t₂ → last ≠ some block →
      staker.sign block = .ok signature → node.submitSignature signature block t₂ true t₃ →
      Plays node staker last t
        ⟨[.getSeed, .submitSeed seed, .submitSignature signature block], .submitted, some block⟩ t₃

/-- One round after the other. -/
inductive Rounds (node : Node Seed Block Signature τ) (staker : Staker Seed Block Signature ε) :
    Option Block → τ → List (Round Seed Block Signature ε) → τ → Prop where
  | nil {last : Option Block} {t : τ} : Rounds node staker last t [] t
  | cons {last : Option Block} {t t' t'' : τ} {round : Round Seed Block Signature ε}
      {rounds : List (Round Seed Block Signature ε)} :
      Plays node staker last t round t' → Rounds node staker round.last t' rounds t'' →
      Rounds node staker last t (round :: rounds) t''

/-! ## The ledger of a node -/

def Request.block? : Request Seed Block Signature → Option Block
  | .submitSignature _ block => some block
  | _ => none

/-- The blocks a round submitted a signature for. -/
def Round.signed (round : Round Seed Block Signature ε) : List Block :=
  round.requests.filterMap Request.block?

/-- Those of them that were accepted. -/
def Round.accepted (round : Round Seed Block Signature ε) : List Block :=
  match round.ending with
  | .submitted => round.signed
  | _ => []

/-- A node that enters the blocks it accepts from this staker in a ledger. The
    reply may get lost: a block can be entered without being reported accepted. -/
structure Records (node : Node Seed Block Signature τ) (ledger : τ → List Block) : Prop where
  getSeed : ∀ {t reply t'}, node.getSeed t reply t' → ledger t' = ledger t
  submitSeed : ∀ {seed t reply t'}, node.submitSeed seed t reply t' → ledger t' = ledger t
  accepted : ∀ {signature block t t'}, node.submitSignature signature block t true t' →
    ledger t' = ledger t ++ [block]
  lost : ∀ {signature block t t'}, node.submitSignature signature block t false t' →
    ledger t' = ledger t ∨ ledger t' = ledger t ++ [block]

/-- Between two states of a node: what was entered lies between the blocks that
    were reported accepted and the blocks that were signed. -/
def Agrees (ledger : τ → List Block) (accepted signed : List Block) (t t' : τ) : Prop :=
  ∃ entered, ledger t' = ledger t ++ entered ∧ accepted.Sublist entered ∧ entered.Sublist signed

variable {node : Node Seed Block Signature τ} {staker : Staker Seed Block Signature ε}
  {ledger : τ → List Block} {last : Option Block} {t t' : τ}
  {round : Round Seed Block Signature ε} {rounds : List (Round Seed Block Signature ε)}

theorem Agrees.unchanged (same : ledger t' = ledger t) : Agrees ledger [] [] t t' :=
  ⟨[], by rw [same, List.append_nil], .slnil, .slnil⟩

theorem Agrees.append {accepted accepted' signed signed' : List Block} {t'' : τ}
    (first : Agrees ledger accepted signed t t') (rest : Agrees ledger accepted' signed' t' t'') :
    Agrees ledger (accepted ++ accepted') (signed ++ signed') t t'' := by
  obtain ⟨entered, split, least, most⟩ := first
  obtain ⟨entered', split', least', most'⟩ := rest
  refine ⟨entered ++ entered', ?_, least.append least', most.append most'⟩
  rw [split', split, List.append_assoc]

/-- What a round does to the ledger: nothing, unless it submitted a signature. -/
theorem Records.plays (records : Records node ledger) (plays : Plays node staker last t round t') :
    (round.signed = [] ∧ round.last = last ∧ round.accepted = [] ∧ ledger t' = ledger t) ∨
    ∃ block, round.signed = [block] ∧ last ≠ some block ∧
      (round.last = some block ∧ round.accepted = [block] ∧ ledger t' = ledger t ++ [block] ∨
        round.last = last ∧ round.accepted = [] ∧
          (ledger t' = ledger t ∨ ledger t' = ledger t ++ [block])) := by
  cases plays with
  | noSeed asked _ | seedFailed asked _ => exact .inl ⟨rfl, rfl, rfl, records.getSeed asked⟩
  | noBlock asked _ offered | alreadySubmitted asked _ offered _
  | signFailed asked _ offered _ _ =>
      exact .inl ⟨rfl, rfl, rfl, (records.submitSeed offered).trans (records.getSeed asked)⟩
  | notAccepted asked _ offered fresh _ refused =>
      have kept := (records.submitSeed offered).trans (records.getSeed asked)
      have entered := records.lost refused
      rw [kept] at entered
      exact .inr ⟨_, rfl, fresh, .inr ⟨rfl, rfl, entered⟩⟩
  | submitted asked _ offered fresh _ accepted =>
      have kept := (records.submitSeed offered).trans (records.getSeed asked)
      have entered := records.accepted accepted
      rw [kept] at entered
      exact .inr ⟨_, rfl, fresh, .inl ⟨rfl, rfl, entered⟩⟩

/-- One round enters at most the block it signed, and that one if it was accepted. -/
theorem Records.round_agrees (records : Records node ledger)
    (plays : Plays node staker last t round t') :
    Agrees ledger round.accepted round.signed t t' := by
  rcases records.plays plays with ⟨signed, _, accepted, kept⟩ |
    ⟨block, signed, _, ⟨_, accepted, entered⟩ | ⟨_, accepted, kept | entered⟩⟩
  · rw [signed, accepted]
    exact .unchanged kept
  · rw [signed, accepted]
    exact ⟨[block], entered, List.Sublist.refl _, List.Sublist.refl _⟩
  · rw [signed, accepted]
    exact ⟨[], by rw [kept, List.append_nil], .slnil, List.nil_sublist _⟩
  · rw [signed, accepted]
    exact ⟨[block], entered, List.nil_sublist _, List.Sublist.refl _⟩

theorem Records.rounds_agree (records : Records node ledger)
    (played : Rounds node staker last t rounds t') :
    Agrees ledger (rounds.flatMap Round.accepted) (rounds.flatMap Round.signed) t t' := by
  induction played with
  | nil => exact .unchanged rfl
  | cons plays _ ih => exact (records.round_agrees plays).append ih

/-! ## A node without lost replies -/

/-- A block that was not reported accepted was not entered, and what is offered
    is a block that was never entered, or the one entered last. -/
structure Reliable (node : Node Seed Block Signature τ) (ledger : τ → List Block) : Prop extends
    Records node ledger where
  refused : ∀ {signature block t t'}, node.submitSignature signature block t false t' →
    ledger t' = ledger t
  advances : ∀ {seed t block t'}, node.submitSeed seed t (some block) t' →
    block ∉ ledger t' ∨ (ledger t').getLast? = some block

/-- The staker knows the last entry, and no block is entered twice. -/
structure InStep (ledger : τ → List Block) (last : Option Block) (t : τ) : Prop where
  last : last = (ledger t).getLast?
  nodup : (ledger t).Nodup

theorem InStep.unchanged (inStep : InStep ledger last t) (same : ledger t' = ledger t) :
    InStep ledger last t' ∧ ledger t' = ledger t ++ [] := by
  refine ⟨⟨?_, ?_⟩, ?_⟩
  · rw [same, inStep.last]
  · rw [same]
    exact inStep.nodup
  · rw [same, List.append_nil]

theorem Reliable.plays (reliable : Reliable node ledger) (inStep : InStep ledger last t)
    (plays : Plays node staker last t round t') :
    InStep ledger round.last t' ∧ ledger t' = ledger t ++ round.accepted := by
  cases plays with
  | noSeed asked _ | seedFailed asked _ => exact inStep.unchanged (reliable.getSeed asked)
  | noBlock asked _ offered | alreadySubmitted asked _ offered _
  | signFailed asked _ offered _ _ =>
      exact inStep.unchanged ((reliable.submitSeed offered).trans (reliable.getSeed asked))
  | notAccepted asked _ offered _ _ refused =>
      have kept := (reliable.submitSeed offered).trans (reliable.getSeed asked)
      exact inStep.unchanged ((reliable.refused refused).trans kept)
  | submitted asked _ offered fresh _ accepted =>
      have kept := (reliable.submitSeed offered).trans (reliable.getSeed asked)
      have entered := reliable.accepted accepted
      have offer := reliable.advances offered
      rw [kept] at entered offer
      refine ⟨⟨?_, ?_⟩, entered⟩
      · rw [entered, List.getLast?_concat]
      · rw [entered]
        rcases offer with new | known
        · exact List.nodup_append.mpr ⟨inStep.nodup, List.nodup_singleton _, by grind⟩
        · exact absurd (inStep.last.trans known) fresh

/-- Exactly the accepted blocks are entered, each of them once. -/
theorem Reliable.rounds_once (reliable : Reliable node ledger) (inStep : InStep ledger last t)
    (played : Rounds node staker last t rounds t') :
    ledger t' = ledger t ++ rounds.flatMap Round.accepted ∧ (ledger t').Nodup := by
  induction played with
  | nil => exact ⟨(List.append_nil _).symm, inStep.nodup⟩
  | cons plays _ ih =>
      obtain ⟨next, entered⟩ := reliable.plays inStep plays
      obtain ⟨rest, nodup⟩ := ih next
      refine ⟨?_, nodup⟩
      rw [rest, entered, List.flatMap_cons, List.append_assoc]

/-! ## A node that waits for the staker -/

/-- The node tells its seed, offers a block for a seed that is linked to it, and
    accepts a signature that verifies on what it offered; its chain then goes on
    from the seed of the offer. -/
structure Cooperates (node : Node Seed Block Signature τ) (current : τ → Seed)
    (offer : τ → Option (Seed × Block)) (Link : Seed → Seed → Prop)
    (Verifies : Block → Signature → Prop) : Prop where
  getSeed : ∀ {t reply t'}, node.getSeed t reply t' →
    reply = some (current t) ∧ current t' = current t
  submitSeed : ∀ {seed t reply t'}, node.submitSeed seed t reply t' → Link (current t) seed →
    current t' = current t ∧ ∃ block, reply = some block ∧ offer t' = some (seed, block)
  submitSignature : ∀ {seed signature block t accepted t'},
    node.submitSignature signature block t accepted t' → offer t = some (seed, block) →
    Verifies block signature → accepted = true ∧ current t' = seed

/-- The staker goes on from every seed of the right shape, and can sign. -/
structure Competent (staker : Staker Seed Block Signature ε) (HasNext : Seed → Prop)
    (Link : Seed → Seed → Prop) (Verifies : Block → Signature → Prop) : Prop where
  nextSeed : ∀ {oldSeed}, HasNext oldSeed → ∃ seed,
    staker.nextSeed (some oldSeed) = .ok (some seed) ∧ Link oldSeed seed ∧ HasNext seed
  sign : ∀ block, ∃ signature, staker.sign block = .ok signature ∧ Verifies block signature

theorem Competent.verifies {HasNext : Seed → Prop} {Link : Seed → Seed → Prop}
    {Verifies : Block → Signature → Prop} (competent : Competent staker HasNext Link Verifies)
    {block : Block} {signature : Signature} (signed : staker.sign block = .ok signature) :
    Verifies block signature := by
  obtain ⟨made, found, verified⟩ := competent.sign block
  rw [found] at signed
  cases signed
  exact verified

/-- So many next seeds lead from one seed to the other. -/
inductive Follows (staker : Staker Seed Block Signature ε) : Seed → Nat → Seed → Prop where
  | refl {seed : Seed} : Follows staker seed 0 seed
  | next {oldSeed seed later : Seed} {n : Nat} :
      staker.nextSeed (some oldSeed) = .ok (some seed) → Follows staker seed n later →
      Follows staker oldSeed (n + 1) later

/-- A round that served its purpose. -/
def Ending.Settled (ending : Ending ε) : Prop := ending = .submitted ∨ ending = .alreadySubmitted

section Waiting

variable {current : τ → Seed} {offer : τ → Option (Seed × Block)} {HasNext : Seed → Prop}
  {Link : Seed → Seed → Prop} {Verifies : Block → Signature → Prop}

/-- Each accepted block moves the chain by one seed, and nothing else moves it. -/
theorem Cooperates.plays (cooperates : Cooperates node current offer Link Verifies)
    (competent : Competent staker HasNext Link Verifies) (shape : HasNext (current t))
    (plays : Plays node staker last t round t') :
    round.ending.Settled ∧ HasNext (current t') ∧
      ∀ {n later}, Follows staker (current t') n later →
        Follows staker (current t) (round.accepted.length + n) later := by
  obtain ⟨next, derived, linked, nextShape⟩ := competent.nextSeed shape
  have stays : ∀ {oldSeed t₁}, node.getSeed t oldSeed t₁ →
      staker.nextSeed oldSeed = .ok (some next) ∧ current t₁ = current t := by
    intro oldSeed t₁ asked
    obtain ⟨rfl, kept⟩ := cooperates.getSeed asked
    exact ⟨derived, kept⟩
  have offers : ∀ {oldSeed seed reply t₁ t₂}, node.getSeed t oldSeed t₁ →
      staker.nextSeed oldSeed = .ok (some seed) → node.submitSeed seed t₁ reply t₂ →
      seed = next ∧ current t₂ = current t ∧ ∃ block, reply = some block ∧
        offer t₂ = some (next, block) := by
    intro oldSeed seed reply t₁ t₂ asked found offered
    obtain ⟨same, kept⟩ := stays asked
    rw [same] at found
    cases found
    have link : Link (current t₁) next := by rwa [kept]
    obtain ⟨kept', block, replied, open_⟩ := cooperates.submitSeed offered link
    exact ⟨rfl, kept'.trans kept, block, replied, open_⟩
  cases plays with
  | noSeed asked none =>
      rw [(stays asked).1] at none
      cases none
  | seedFailed asked failed =>
      rw [(stays asked).1] at failed
      cases failed
  | noBlock asked found offered =>
      obtain ⟨_, _, _, replied, _⟩ := offers asked found offered
      cases replied
  | alreadySubmitted asked found offered same =>
      obtain ⟨_, kept, _⟩ := offers asked found offered
      refine ⟨.inr rfl, ?_, ?_⟩
      · rwa [kept]
      · intro n later follows
        rw [kept] at follows
        simpa [Round.accepted] using follows
  | signFailed asked found offered fresh failed =>
      obtain ⟨signature, signed, _⟩ := competent.sign _
      rw [signed] at failed
      cases failed
  | notAccepted asked found offered fresh signed refused =>
      obtain ⟨_, _, _, replied, open_⟩ := offers asked found offered
      cases replied
      cases (cooperates.submitSignature refused open_ (competent.verifies signed)).1
  | submitted asked found offered fresh signed accepted =>
      obtain ⟨_, _, _, replied, open_⟩ := offers asked found offered
      cases replied
      have moved := (cooperates.submitSignature accepted open_ (competent.verifies signed)).2
      refine ⟨.inl rfl, ?_, ?_⟩
      · rwa [moved]
      · intro n later follows
        rw [moved] at follows
        rw [Nat.add_comm]
        exact .next derived follows

/-- No round fails, and the chain has moved by as many seeds as blocks were
    accepted. -/
theorem Cooperates.rounds_settled (cooperates : Cooperates node current offer Link Verifies)
    (competent : Competent staker HasNext Link Verifies) (shape : HasNext (current t))
    (played : Rounds node staker last t rounds t') :
    (∀ round ∈ rounds, round.ending.Settled) ∧
      Follows staker (current t) (rounds.flatMap Round.accepted).length (current t') := by
  induction played with
  | nil => exact ⟨by simp, .refl⟩
  | cons plays _ ih =>
      obtain ⟨settled, shape', advance⟩ := cooperates.plays competent shape plays
      obtain ⟨rest, follows⟩ := ih shape'
      refine ⟨?_, ?_⟩
      · intro other member
        rcases List.mem_cons.mp member with rfl | member
        · exact settled
        · exact rest other member
      · rw [List.flatMap_cons, List.length_append]
        exact advance follows

end Waiting

end Protocol
