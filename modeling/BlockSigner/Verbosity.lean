import BlockSigner.LogReading

/-! # Verbose logging

A signer with verbose logging and the same signer without it meet the same node
side by side. They send the same and end in the same way; the log of the one is
the log of the other without the lines about calls.
-/

namespace BlockSigner

variable {lib : Libraries}

/-! ## Leaving lines out -/

def verboseFronts : List Text :=
  [RpcMethod.call, .getSeed, .submitSeed, .submitSignature].flatMap fun method =>
    [method.getMethod ++ " payload: ".toList, method.getMethod ++ " response: ".toList]

def isVerbose (line : Text) : Bool := verboseFronts.any fun front => front.isPrefixOf line

/-- The event is no line about a call. -/
def Event.stays : Event → Bool
  | .log message => !isVerbose message
  | .curl .. => true

def muted (events : List Event) : List Event := events.filter Event.stays

theorem isVerbose_of_verbose {line : Text} (verbose : Verbose line) : isVerbose line = true := by
  have starts : ∀ {front : Text} (rest : Text), front ∈ verboseFronts →
      isVerbose (front ++ rest) = true := by
    intro front rest member
    exact List.any_eq_true.mpr ⟨front, member, by simp⟩
  cases verbose with
  | payload method payload =>
      apply starts payload
      cases method <;> simp [verboseFronts]
  | response method response =>
      apply starts response.toString
      cases method <;> simp [verboseFronts]

theorem getMethod_head (method : RpcMethod) :
    ∃ c ∈ ['e', 'g', 's'], method.getMethod.head? = some c := by
  cases method with
  | call => exact ⟨'e', by simp, rfl⟩
  | getSeed => exact ⟨'g', by simp, rfl⟩
  | submitSeed | submitSignature => exact ⟨'s', by simp, rfl⟩

/-- The lines about calls begin with the name of a method. -/
theorem isVerbose_of_head {c : Char} {line : Text} (begins : line.head? = some c)
    (other : c ∉ ['e', 'g', 's']) : isVerbose line = false := by
  have heads : ∀ front ∈ verboseFronts, ∃ d ∈ ['e', 'g', 's'], front.head? = some d := by
    intro front member
    obtain ⟨method, _, member⟩ := List.mem_flatMap.mp member
    obtain ⟨d, listed, first⟩ := getMethod_head method
    refine ⟨d, listed, ?_⟩
    rcases List.mem_cons.mp member with rfl | member
    · rw [List.head?_append, first]
      rfl
    · rw [List.mem_singleton.mp member, List.head?_append, first]
      rfl
  refine List.any_eq_false.mpr ?_
  intro front member starts
  obtain ⟨d, listed, first⟩ := heads front member
  obtain ⟨rest, rfl⟩ := List.isPrefixOf_iff_prefix.mp starts
  rw [List.head?_append, first] at begins
  cases begins
  exact other listed

theorem stays_of_head {c : Char} {line : Text} (begins : line.head? = some c)
    (other : c ∉ ['e', 'g', 's']) : (Event.log line).stays = true := by
  rw [Event.stays, isVerbose_of_head begins other]
  rfl

/-! ## A world without the lines -/

/-- The same is to come, and the same was seen but for the lines about calls. -/
structure Mutes (w w' : World) : Prop where
  node : w'.node = w.node
  events : w'.events = muted w.events
  lastSubmittedHash : w'.lastSubmittedHash = w.lastSubmittedHash

theorem muted_append (before after : List Event) :
    muted (before ++ after) = muted before ++ muted after := List.filter_append before after

theorem Mutes.emit {w w' : World} (mutes : Mutes w w') {message : Text}
    (stays : (Event.log message).stays = true) :
    Mutes (w.emit (.log message)) (w'.emit (.log message)) where
  node := mutes.node
  events := by
    rw [World.emit_events, World.emit_events, muted_append, mutes.events]
    simp [muted, stays]
  lastSubmittedHash := mutes.lastSubmittedHash

theorem Mutes.curl {w w' : World} (mutes : Mutes w w') (command : List Text) :
    Mutes (w.curl command) (w'.curl command) where
  node := by
    funext i
    rw [World.curl_node, World.curl_node, mutes.node]
  events := by
    rw [World.curl_events, World.curl_events, muted_append, mutes.events, mutes.node]
    rfl
  lastSubmittedHash := mutes.lastSubmittedHash

/-- A line about a call is written on one side at most. -/
theorem Mutes.verbosely {w w' : World} (mutes : Mutes w w') (logger : Logger) {message : Text}
    (verbose : Verbose message) :
    Mutes (logger.verbosely message w) ((⟨false⟩ : Logger).verbosely message w') := by
  have dropped : muted [.log message] = [] := by
    simp [muted, Event.stays, isVerbose_of_verbose verbose]
  unfold Logger.verbosely
  split
  · refine ⟨mutes.node, ?_, mutes.lastSubmittedHash⟩
    rw [World.emit_events, muted_append, dropped, List.append_nil]
    exact mutes.events
  · exact mutes

def RPC.quiet (rpc : RPC) : RPC := { rpc with logger := ⟨false⟩ }

theorem Mutes.record {w w' : World} (mutes : Mutes w w') (rpc : RPC) (method : RpcMethod)
    (params : Text) :
    Mutes (rpc.record lib method params w) (rpc.quiet.record lib method params w') := by
  have sent := (mutes.verbosely rpc.logger (.payload method (RpcPayload.frame method params))).curl
    (rpc.rpc.command (RpcPayload.frame method params))
  unfold RPC.record
  rw [mutes.node]
  cases made : rpc.rpc.resultOf lib false (w.node 0) with
  | error e =>
      simp only [RPC.quiet, made]
      exact sent
  | ok response =>
      simp only [RPC.quiet, made]
      exact sent.verbosely rpc.logger (.response method response)

/-! ## Paired computations -/

/-- Run in a world and in that world without the lines. -/
abbrev Quietly {α β : Type} (Q : α → β → Prop) (x : Exec α) (y : Exec β) : Prop :=
  TwoRuns.Paired Mutes Q x y

namespace Quietly

variable {α β γ δ : Type} {Q : α → β → Prop} {P : γ → δ → Prop}

theorem bind {x : Exec α} {y : Exec β} {f : α → Exec γ} {g : β → Exec δ} (first : Quietly Q x y)
    (rest : ∀ a b, Q a b → Quietly P (f a) (g b)) : Quietly P (x >>= f) (y >>= g) := by
  rw [SideBySide.bind_eq_andThen, SideBySide.bind_eq_andThen]
  exact first.andThen rest

theorem bind_same {x y : Exec α} {f : α → Exec γ} {g : α → Exec δ} (first : Quietly Eq x y)
    (rest : ∀ a, Quietly P (f a) (g a)) : Quietly P (x >>= f) (y >>= g) := by
  apply first.bind
  rintro a _ rfl
  exact rest a

theorem pure {a : α} {b : β} (related : Q a b) : Quietly Q (Pure.pure a) (Pure.pure b) :=
  TwoRuns.Paired.result (.ok related)

theorem throw (e : JavaException) : Quietly Q (MonadExcept.throw e) (MonadExcept.throw e) :=
  TwoRuns.Paired.result .error

theorem lift (result : Except JavaException α) :
    Quietly Eq (liftM result : Exec α) (liftM result : Exec α) :=
  TwoRuns.Paired.result (.refl result)

/-- A line, and then a result. -/
theorem log_then (logger logger' : Logger) {message : Text}
    (stays : (Event.log message).stays = true) {a : α} {b : β} (related : Q a b) :
    Quietly Q (logger.log message >>= fun _ => Pure.pure a)
      (logger'.log message >>= fun _ => Pure.pure b) :=
  fun _ _ mutes => ⟨.ok related, mutes.emit stays⟩

theorem log (logger logger' : Logger) {message : Text} (stays : (Event.log message).stays = true) :
    Quietly Eq (logger.log message) (logger'.log message) :=
  fun _ _ mutes => ⟨.ok rfl, mutes.emit stays⟩

theorem getLastSubmittedHash : Quietly Eq Exec.getLastSubmittedHash Exec.getLastSubmittedHash := by
  intro w w' mutes
  refine ⟨?_, mutes⟩
  change TwoRuns.Outcome Eq (.ok w.lastSubmittedHash) (.ok w'.lastSubmittedHash)
  exact .ok mutes.lastSubmittedHash.symm

theorem setLastSubmittedHash (hash : Bytes) :
    Quietly Eq (Exec.setLastSubmittedHash hash) (Exec.setLastSubmittedHash hash) :=
  fun _ _ mutes => ⟨.ok rfl, mutes.node, mutes.events, rfl⟩

theorem tryCatch {x y : Exec α} {handler handler' : JavaException → Exec α} (body : Quietly Eq x y)
    (caught : ∀ e, Quietly Eq (handler e) (handler' e)) :
    Quietly Eq (MonadExcept.tryCatch x handler) (MonadExcept.tryCatch y handler') := by
  rw [SideBySide.tryCatch_eq_catching, SideBySide.tryCatch_eq_catching]
  exact body.catching caught

/-- Any method of the node, with and without the lines about it. -/
theorem method {rpc : RPC} {method : RpcMethod} {params : Text} {x y : Exec α}
    {returned : CurlRun → Except JavaException α}
    (runs : ∀ w, x.run w = (returned (w.node 0), rpc.record lib method params w))
    (runs' : ∀ w, y.run w = (returned (w.node 0), rpc.quiet.record lib method params w)) :
    Quietly Eq x y := by
  intro w w' mutes
  change TwoRuns.Outcome Eq (x.run w).1 (y.run w').1 ∧ Mutes (x.run w).2 (y.run w').2
  rw [runs w, runs' w', mutes.node]
  exact ⟨.refl _, mutes.record rpc method params⟩

end Quietly

/-! ## The loop -/

namespace Signer

/-- The same signer without verbose logging. -/
def quiet (signer : Signer lib) : Signer lib :=
  { signer with rpc := signer.rpc.quiet, logger := ⟨false⟩ }

theorem submitBlock_quiet (signer : Signer lib) (blockHash : Bytes) :
    Quietly Eq (signer.submitBlock blockHash) (signer.quiet.submitBlock blockHash) := by
  unfold submitBlock
  apply Quietly.bind_same (.lift _)
  intro signature
  apply Quietly.bind_same (.method (signer.rpc.submitSignature_run lib signature blockHash)
    (signer.rpc.quiet.submitSignature_run lib signature blockHash))
  intro answer
  by_cases accepted : parseBoolean answer
  · simp only [accepted, if_true]
    apply Quietly.bind_same (.log _ _ (stays_of_head (c := 'B') rfl (by simp)))
    intro _
    apply Quietly.bind_same (.setLastSubmittedHash blockHash)
    intro _
    exact .pure rfl
  · simp only [accepted]
    exact .pure rfl

theorem body_quiet (signer : Signer lib) : Quietly Eq signer.body signer.quiet.body := by
  unfold body
  apply Quietly.bind_same (.method (signer.rpc.getSeed_run lib) (signer.rpc.quiet.getSeed_run lib))
  intro oldSeed
  apply Quietly.bind_same (.lift _)
  intro nextSeed
  cases nextSeed with
  | none => exact .log_then _ _ (stays_of_head (c := 'C') rfl (by simp)) rfl
  | some seed =>
      apply Quietly.bind_same (.method (signer.rpc.submitSeed_run lib seed _ _)
        (signer.rpc.quiet.submitSeed_run lib seed _ _))
      intro blockHashToSign
      cases blockHashToSign with
      | none => exact .log_then _ _ (stays_of_head (c := 'C') rfl (by simp)) rfl
      | some blockHash =>
          apply Quietly.bind_same .getLastSubmittedHash
          intro lastSubmittedHash
          by_cases fresh : lastSubmittedHash ≠ some blockHash
          · simp only [if_pos fresh]
            exact submitBlock_quiet signer blockHash
          · simp only [if_neg fresh]
            exact .log_then _ _ (stays_of_head (c := 'B') rfl (by simp)) rfl

theorem pass_quiet (signer : Signer lib) : Quietly Eq signer.pass signer.quiet.pass := by
  apply Quietly.tryCatch (body_quiet signer)
  intro e
  exact .log_then _ _ (stays_of_head (c := 'B') rfl (by simp)) rfl

end Signer

/-- The iteration without the lines about its calls. -/
def Iteration.quiet (iteration : Iteration) : Iteration :=
  { iteration with events := muted iteration.events }

theorem iterate_quiet (signer : Signer lib) (last : Option Bytes) (turn : Turn) :
    iterate signer.quiet last turn = (iterate signer last turn).quiet := by
  have blank : Mutes ⟨turn, [], last⟩ ⟨turn, [], last⟩ := ⟨rfl, rfl, rfl⟩
  obtain ⟨exit, left⟩ := Signer.pass_quiet signer _ _ blank
  have result : (signer.pass.run ⟨turn, [], last⟩).1 = (signer.quiet.pass.run ⟨turn, [], last⟩).1 :=
    exit.eq
  have after : (signer.quiet.pass.run ⟨turn, [], last⟩).2.lastSubmittedHash =
      (signer.pass.run ⟨turn, [], last⟩).2.lastSubmittedHash := left.lastSubmittedHash
  have events : (signer.quiet.pass.run ⟨turn, [], last⟩).2.events =
      muted (signer.pass.run ⟨turn, [], last⟩).2.events := left.events
  simp only [iterate, Iteration.quiet, result, after, events]

theorem runFrom_quiet (signer : Signer lib) (last : Option Bytes) (turns : List Turn) :
    runFrom signer.quiet last turns = (runFrom signer last turns).map Iteration.quiet := by
  induction turns generalizing last with
  | nil => rfl
  | cons turn turns ih =>
      have after : (iterate signer.quiet last turn).after = (iterate signer last turn).after := by
        rw [iterate_quiet]
        rfl
      rw [runFrom_cons, runFrom_cons, after, ih, iterate_quiet, List.map_cons]

theorem quiet_events (iterations : List Iteration) :
    (iterations.map Iteration.quiet).flatMap Iteration.events =
      muted (iterations.flatMap Iteration.events) := by
  induction iterations with
  | nil => rfl
  | cons iteration iterations ih =>
      rw [List.map_cons, List.flatMap_cons, List.flatMap_cons, ih, muted_append]
      rfl

/-! ## The launch -/

theorem getCoinbaseAddress_quiet (rpc : RPC) (logger logger' : Logger)
    (networkName identityAddressString : Option Text) :
    Quietly Eq (getCoinbaseAddress lib rpc logger networkName identityAddressString)
      (getCoinbaseAddress lib rpc.quiet logger' networkName identityAddressString) := by
  cases identityAddressString with
  | none => exact .throw _
  | some identityAddressString =>
      cases networkName with
      | none => exact .throw _
      | some networkName =>
          unfold getCoinbaseAddress
          apply Quietly.bind_same (.lift _)
          intro registry
          apply Quietly.bind_same (.log _ _ (stays_of_head (c := 'R') rfl (by simp)))
          intro _
          apply Quietly.bind_same (.lift _)
          intro identity
          apply Quietly.bind_same (.method (rpc.call_run lib _) (rpc.quiet.call_run lib _))
          intro returnValue
          apply Quietly.bind_same (.lift _)
          intro decoded
          cases decoded with
          | none => exact .throw _
          | some address =>
              apply Quietly.bind_same (.lift _)
              intro coinbase
              exact .log_then _ _ (stays_of_head (c := 'U') rfl (by simp)) rfl

def Settings.quiet (settings : Settings) : Settings :=
  { settings with verboseLoggingEnabled := false }

theorem new_quiet (ip port : Option Text) (logger : Logger) :
    RPC.new ip port ⟨false⟩ = RPC.quiet <$> RPC.new ip port logger := by
  cases ip with
  | none => rfl
  | some ip =>
      cases port with
      | none => rfl
      | some port => rfl

theorem start_quiet (settings : Settings) :
    Quietly (fun signer signer' => signer' = Signer.quiet signer) (start lib settings)
      (start lib settings.quiet) := by
  unfold start
  apply Quietly.bind_same (.lift _)
  intro key
  apply Quietly.bind (Q := fun rpc rpc' => rpc' = RPC.quiet rpc)
  · change Quietly _ (liftM (RPC.new settings.ip settings.port settings.logger) : Exec RPC)
      (liftM (RPC.new settings.ip settings.port ⟨false⟩) : Exec RPC)
    rw [new_quiet settings.ip settings.port settings.logger]
    cases RPC.new settings.ip settings.port settings.logger with
    | error e => exact .throw e
    | ok rpc => exact .pure rfl
  · rintro rpc _ rfl
    rw [Settings.quiet]
    cases settings.coinbaseAddress with
    | none => exact .throw _
    | some coinbaseAddress =>
        dsimp only
        by_cases given : coinbaseAddress.length > 0
        · simp only [if_pos given]
          apply Quietly.bind_same (.lift _)
          intro coinbase
          exact .log_then _ _ (stays_of_head (c := 'P') rfl (by simp)) rfl
        · simp only [if_neg given]
          apply Quietly.bind_same (getCoinbaseAddress_quiet rpc _ _ _ _)
          intro coinbase
          exact .log_then _ _ (stays_of_head (c := 'P') rfl (by simp)) rfl

section

variable {files files' : Text → Except JavaException Properties} {args args' : List Text}
  {settings : Settings}

/-- The launch without verbose logging, next to the launch with it. -/
theorem main_quiet (resolved : resolve files args = .ok (some settings))
    (resolved' : resolve files' args' = .ok (some settings.quiet)) (node : Nat → CurlRun) :
    TwoRuns.Outcome (fun signer signer' => signer' = Option.map Signer.quiet signer)
        ((main lib files args).run ⟨node, [], none⟩).1
        ((main lib files' args').run ⟨node, [], none⟩).1 ∧
      Mutes ((main lib files args).run ⟨node, [], none⟩).2
        ((main lib files' args').run ⟨node, [], none⟩).2 := by
  have blank : Mutes ⟨node, [], none⟩ ⟨node, [], none⟩ := ⟨rfl, rfl, rfl⟩
  obtain ⟨outcome, left⟩ := start_quiet settings _ _ blank
  change TwoRuns.Outcome _ ((start lib settings).run ⟨node, [], none⟩).1
    ((start lib settings.quiet).run ⟨node, [], none⟩).1 at outcome
  change Mutes ((start lib settings).run ⟨node, [], none⟩).2
    ((start lib settings.quiet).run ⟨node, [], none⟩).2 at left
  cases started : (start lib settings).run ⟨node, [], none⟩ with
  | mk result v =>
      cases started' : (start lib settings.quiet).run ⟨node, [], none⟩ with
      | mk result' v' =>
          rw [started, started'] at outcome left
          cases outcome with
          | ok same =>
              rw [main_ok resolved started, main_ok resolved' started']
              exact ⟨.ok (by rw [same]; rfl), left⟩
          | error =>
              rw [main_error resolved started, main_error resolved' started']
              exact ⟨.error, left⟩

/-- Two launches that differ in verbose logging alone fail with one exception, or
    start one signer but for its logger, whose runs send the same, end in the same
    way, and have the same log but for the lines about calls. -/
theorem launch_quiet (resolved : resolve files args = .ok (some settings))
    (resolved' : resolve files' args' = .ok (some settings.quiet)) (node : Nat → CurlRun) :
    (∀ e v, (main lib files args).run ⟨node, [], none⟩ = (.error e, v) →
      ∃ v', (main lib files' args').run ⟨node, [], none⟩ = (.error e, v') ∧
        v'.events = muted v.events) ∧
    ∀ signer v, (main lib files args).run ⟨node, [], none⟩ = (.ok (some signer), v) →
      ∃ v', (main lib files' args').run ⟨node, [], none⟩ = (.ok (some signer.quiet), v') ∧
        ∀ turns, run signer.quiet turns = (run signer turns).map Iteration.quiet ∧
          transcript v' (run signer.quiet turns) = muted (transcript v (run signer turns)) := by
  obtain ⟨outcome, left⟩ := main_quiet resolved resolved' node
  cases launched' : (main lib files' args').run ⟨node, [], none⟩ with
  | mk result' v' =>
      rw [launched'] at outcome left
      constructor
      · intro e v launched
        rw [launched] at outcome left
        cases outcome with
        | error => exact ⟨v', rfl, left.events⟩
      · intro signer v launched
        rw [launched] at outcome left
        cases outcome with
        | ok same =>
            refine ⟨v', by rw [same]; rfl, ?_⟩
            intro turns
            have iterations := runFrom_quiet signer none turns
            refine ⟨iterations, ?_⟩
            rw [transcript, transcript, muted_append, left.events, ← quiet_events]
            exact congrArg (muted v.events ++ List.flatMap Iteration.events ·) iterations

end

/-- Launches from the command line, with `true` and with `false`. -/
theorem launch_quiet_commandLine :
    ∃ (signer : Signer referenceLibraries) (v v' : World),
      (main referenceLibraries (fun _ => .error ⟨.io, none⟩)
        (Reference.launch (.upToVerbose "127.0.0.1".toList "8545".toList "true".toList)).args).run
          ⟨fun _ => Reference.registryAnswer, [], none⟩ = (.ok (some signer), v) ∧
      (main referenceLibraries (fun _ => .error ⟨.io, none⟩)
        (Reference.launch (.upToVerbose "127.0.0.1".toList "8545".toList "false".toList)).args).run
          ⟨fun _ => Reference.registryAnswer, [], none⟩ = (.ok (some signer.quiet), v') ∧
      ∀ turns, transcript v' (run signer.quiet turns) = muted (transcript v (run signer turns)) := by
  let files : Text → Except JavaException Properties := fun _ => .error ⟨.io, none⟩
  let verbose := Reference.launch (.upToVerbose "127.0.0.1".toList "8545".toList "true".toList)
  let silent := Reference.launch (.upToVerbose "127.0.0.1".toList "8545".toList "false".toList)
  let w : World := ⟨fun _ => Reference.registryAnswer, [], none⟩
  have started : ¬ Fails ((main referenceLibraries files verbose.args).run w) := by
    rw [commandLine_fails_iff]
    rintro (⟨e, rejected⟩ | fails)
    · have accepted : getStakerPrivateKey referenceLibraries verbose.signingAddressPrivateKey = _ :=
        getStakerPrivateKey_encode Reference.hex Reference.key
      rw [accepted] at rejected
      cases rejected
    · exact Reference.launch_looksUp _ fails
  obtain ⟨signer, v, launched⟩ :=
    (main_reaches_or_fails (resolve_args files verbose) w).resolve_right started
  obtain ⟨v', launched', same⟩ := (launch_quiet (resolve_args files verbose)
    (show resolve files silent.args = .ok (some verbose.commandLine.quiet) from
      resolve_args files silent) (fun _ => Reference.registryAnswer)).2 signer v launched
  exact ⟨signer, v, v', launched, launched', fun turns => (same turns).2⟩

end BlockSigner
