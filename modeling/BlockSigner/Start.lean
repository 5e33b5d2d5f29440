import BlockSigner.Launch

/-! # What it takes to start

`start` goes through five places that can fail and one that talks to the node.
`Starts` lists the two ways through, with the signer and the world each leaves; a
launch gets to the loop in one of them or not at all.
-/

namespace BlockSigner

variable {lib : Libraries}

def retrievingLine (registry : Address) : Text :=
  "Retrieving the coinbase address from the StakerRegistry at ".toList ++ registry.toString
    ++ "...".toList

def coinbaseLine (coinbase : Address) : Text :=
  "Using coinbase address ".toList ++ coinbase.toString

def producingLine : Text := "Producing blocks now..".toList

/-- The question to the staker registry. -/
def registryCall (lib : Libraries) (registry identity : Address) : Transaction :=
  ⟨registry, some (lib.encodeCoinbaseCall identity)⟩

/-! ## The look-up -/

/-- The registry of the network was asked for the coinbase address of the identity. -/
inductive LooksUp (lib : Libraries) (rpc : RPC) (network identity : Option Text) (w : World) :
    Address → World → Prop where
  | mk {networkName identityString : Text} {registry address coinbase : Address}
      {value : Option Bytes} :
      network = some networkName → stakerRegistryAddress networkName = .ok registry →
      identity = some identityString → getAddressFromString lib identityString = .ok address →
      rpc.bytesAnswer lib (w.node 0) = .ok value → lib.decodeOneAddress value = .ok (some coinbase) →
      LooksUp lib rpc network identity w coinbase
        ((rpc.record lib .call (RPC.callParams (registryCall lib registry address))
          (w.emit (.log (retrievingLine registry)))).emit (.log (coinbaseLine coinbase)))

/-- A sequence gives a result where its first part and then its rest give one. -/
theorem bind_eq_ok_iff {α β : Type} {x : Exec α} {f : α → Exec β} {w v : World} {b : β} :
    (x >>= f).run w = (.ok b, v) ↔ ∃ a w', x.run w = (.ok a, w') ∧ (f a).run w' = (.ok b, v) := by
  rw [Exec.bind_run]
  cases ran : x.run w with
  | mk result w' =>
      cases result with
      | error e => simp
      | ok a => simp

theorem lift_bind_eq_ok_iff {α β : Type} {result : Except JavaException α} {f : α → Exec β}
    {w v : World} {b : β} :
    ((liftM result : Exec α) >>= f).run w = (.ok b, v) ↔
      ∃ a, result = .ok a ∧ (f a).run w = (.ok b, v) := by
  rw [bind_eq_ok_iff]
  simp only [Exec.liftM_run, Prod.mk.injEq]
  constructor
  · rintro ⟨a, _, ⟨done, rfl⟩, rest⟩
    exact ⟨a, done, rest⟩
  · rintro ⟨a, done, rest⟩
    exact ⟨a, w, ⟨done, rfl⟩, rest⟩

theorem lift_ok_bind {α β : Type} (a : α) (f : α → Exec β) :
    ((liftM (Except.ok a : Except JavaException α) : Exec α) >>= f) = f a := rfl

theorem log_bind {β : Type} (logger : Logger) (message : Text) (f : Unit → Exec β) (w : World) :
    (logger.log message >>= f).run w = (f ()).run (w.emit (.log message)) := rfl

theorem getCoinbaseAddress_ok_iff (rpc : RPC) (logger : Logger) (network identity : Option Text)
    (w v : World) (coinbase : Address) :
    (getCoinbaseAddress lib rpc logger network identity).run w = (.ok coinbase, v) ↔
      LooksUp lib rpc network identity w coinbase v := by
  constructor
  · intro ran
    cases identity with
    | none => cases ran
    | some identityString =>
        cases network with
        | none => cases ran
        | some networkName =>
            obtain ⟨registry, found, ran⟩ := lift_bind_eq_ok_iff.mp ran
            rw [log_bind] at ran
            obtain ⟨address, converted, ran⟩ := lift_bind_eq_ok_iff.mp ran
            obtain ⟨value, w', called, ran⟩ := bind_eq_ok_iff.mp ran
            rw [RPC.call_run] at called
            obtain ⟨answered, rfl⟩ := Prod.mk.inj called
            obtain ⟨decoded, read, ran⟩ := lift_bind_eq_ok_iff.mp ran
            cases decoded with
            | none => cases ran
            | some address' =>
                obtain ⟨coinbase', made, ran⟩ := lift_bind_eq_ok_iff.mp ran
                rw [Address.toByteArray, Address.ofBytes_raw] at made
                cases made
                cases ran
                exact .mk rfl found rfl converted answered read
  · intro looks
    cases looks with
    | @mk _ _ registry address _ _ network found identity converted answered read =>
        rw [network, identity]
        refine lift_bind_eq_ok_iff.mpr ⟨_, found, ?_⟩
        rw [log_bind]
        refine lift_bind_eq_ok_iff.mpr ⟨_, converted, ?_⟩
        have called := rpc.call_run lib (registryCall lib registry address)
          (w.emit (.log (retrievingLine registry)))
        rw [World.emit_node, answered] at called
        refine bind_eq_ok_iff.mpr ⟨_, _, called, ?_⟩
        refine lift_bind_eq_ok_iff.mpr ⟨_, read, ?_⟩
        exact lift_bind_eq_ok_iff.mpr ⟨_, Address.ofBytes_raw _, rfl⟩

/-! ## The launch -/

def Settings.logger (settings : Settings) : Logger := ⟨settings.verboseLoggingEnabled⟩

/-- The two ways through `start`: the coinbase address is given, or it is blank
    and looked up. -/
inductive Starts (lib : Libraries) (settings : Settings) (w : World) : Signer lib → World → Prop where
  | given {key : PrivateKey lib} {ip port text : Text} {coinbase : Address} :
      getStakerPrivateKey lib settings.signingAddressPrivateKey = .ok key →
      settings.ip = some ip → settings.port = some port →
      settings.coinbaseAddress = some text → text ≠ [] →
      getAddressFromString lib text = .ok coinbase →
      Starts lib settings w ⟨key, ⟨⟨ip, port⟩, settings.logger⟩, coinbase, settings.logger⟩
        (w.emit (.log producingLine))
  | lookedUp {key : PrivateKey lib} {ip port : Text} {coinbase : Address} {v : World} :
      getStakerPrivateKey lib settings.signingAddressPrivateKey = .ok key →
      settings.ip = some ip → settings.port = some port →
      settings.coinbaseAddress = some [] →
      LooksUp lib ⟨⟨ip, port⟩, settings.logger⟩ settings.networkName settings.identityAddressString w
        coinbase v →
      Starts lib settings w ⟨key, ⟨⟨ip, port⟩, settings.logger⟩, coinbase, settings.logger⟩
        (v.emit (.log producingLine))

theorem RPC.new_ok_iff {ip port : Option Text} {logger : Logger} {rpc : RPC} :
    RPC.new ip port logger = .ok rpc ↔
      ∃ host service, ip = some host ∧ port = some service ∧ rpc = ⟨⟨host, service⟩, logger⟩ := by
  constructor
  · intro made
    cases ip with
    | none => cases made
    | some host =>
        cases port with
        | none => cases made
        | some service =>
            cases made
            exact ⟨host, service, rfl, rfl, rfl⟩
  · rintro ⟨host, service, rfl, rfl, rfl⟩
    rfl

/-- The caller of a signer is made from the settings. -/
theorem Starts.rpc {settings : Settings} {w v : World} {signer : Signer lib}
    (starts : Starts lib settings w signer v) :
    RPC.new settings.ip settings.port settings.logger = .ok signer.rpc := by
  cases starts with
  | given _ host service _ _ _ | lookedUp _ host service _ _ =>
      exact RPC.new_ok_iff.mpr ⟨_, _, host, service, rfl⟩

theorem start_ok_iff (settings : Settings) (w v : World) (signer : Signer lib) :
    (start lib settings).run w = (.ok signer, v) ↔ Starts lib settings w signer v := by
  have nothing : ¬ ([] : Text).length > 0 := Nat.lt_irrefl 0
  constructor
  · intro ran
    obtain ⟨key, accepted, ran⟩ := lift_bind_eq_ok_iff.mp ran
    obtain ⟨rpc, made, ran⟩ := lift_bind_eq_ok_iff.mp ran
    obtain ⟨ip, port, host, service, rfl⟩ := RPC.new_ok_iff.mp made
    cases given : settings.coinbaseAddress with
    | none =>
        rw [given] at ran
        cases ran
    | some text =>
        rw [given] at ran
        dsimp only at ran
        by_cases blank : text = []
        · rw [blank] at ran given
          rw [if_neg nothing] at ran
          obtain ⟨coinbase, w', looked, ran⟩ := bind_eq_ok_iff.mp ran
          cases ran
          exact .lookedUp accepted host service given
            ((getCoinbaseAddress_ok_iff _ _ _ _ _ _ _).mp looked)
        · rw [if_pos (List.length_pos_iff.mpr blank)] at ran
          obtain ⟨coinbase, converted, ran⟩ := lift_bind_eq_ok_iff.mp ran
          cases ran
          exact .given accepted host service given blank converted
  · intro starts
    cases starts with
    | @given key ip port text coinbase accepted host service given nonblank converted =>
        refine lift_bind_eq_ok_iff.mpr ⟨_, accepted, ?_⟩
        refine lift_bind_eq_ok_iff.mpr ⟨_, RPC.new_ok_iff.mpr ⟨ip, port, host, service, rfl⟩, ?_⟩
        rw [given]
        dsimp only
        rw [if_pos (List.length_pos_iff.mpr nonblank)]
        exact lift_bind_eq_ok_iff.mpr ⟨_, converted, rfl⟩
    | @lookedUp key ip port coinbase v accepted host service given looked =>
        refine lift_bind_eq_ok_iff.mpr ⟨_, accepted, ?_⟩
        refine lift_bind_eq_ok_iff.mpr ⟨_, RPC.new_ok_iff.mpr ⟨ip, port, host, service, rfl⟩, ?_⟩
        rw [given]
        dsimp only
        rw [if_neg nothing]
        exact bind_eq_ok_iff.mpr ⟨_, _, (getCoinbaseAddress_ok_iff _ _ _ _ _ _ _).mpr looked, rfl⟩

theorem main_ok_iff (files : Text → Except JavaException Properties) (args : List Text) (w v : World)
    (signer : Signer lib) :
    (main lib files args).run w = (.ok (some signer), v) ↔
      ∃ settings, resolve files args = .ok (some settings) ∧ Starts lib settings w signer v := by
  constructor
  · intro launched
    obtain ⟨settings, resolved, ran⟩ := lift_bind_eq_ok_iff.mp launched
    cases settings with
    | none => cases ran
    | some settings =>
        exact ⟨settings, resolved, (start_ok_iff settings w v signer).mp (start_of_main resolved launched)⟩
  · rintro ⟨settings, resolved, starts⟩
    exact main_ok resolved ((start_ok_iff settings w v signer).mpr starts)

/-! ## What a launch asks -/

/-- The one question a launch can ask, with the settings that give rise to it. -/
inductive Question (lib : Libraries) (settings : Settings) : Text → Prop where
  | mk {networkName identityString : Text} {registry identity : Address} :
      settings.coinbaseAddress = some [] →
      settings.networkName = some networkName → stakerRegistryAddress networkName = .ok registry →
      settings.identityAddressString = some identityString →
      getAddressFromString lib identityString = .ok identity →
      Question lib settings
        (RpcPayload.frame .call (RPC.callParams (registryCall lib registry identity)))

/-- From one world to the other nothing was asked, or the one question. -/
def AsksAtMost (lib : Libraries) (settings : Settings) (w v : World) : Prop :=
  calls v.events = calls w.events ∨
    ∃ payload, Question lib settings payload ∧
      calls v.events = calls w.events ++ [(payload, w.node 0)]

/-- No curl is started. -/
def Silent {α : Type} (x : Exec α) : Prop := ∀ w, calls (x.run w).2.events = calls w.events

/-- A rest that starts no curl leaves the calls of the first part. -/
theorem Silent.after {α β : Type} {f : α → Exec β} (rest : ∀ a, Silent (f a)) (x : Exec α)
    (w : World) : calls ((x >>= f).run w).2.events = calls (x.run w).2.events := by
  rw [Exec.bind_run]
  cases x.run w with
  | mk result w' =>
      cases result with
      | error e => rfl
      | ok a => exact rest a w'

theorem silent_lift {α : Type} (result : Except JavaException α) :
    Silent (liftM result : Exec α) := fun _ => rfl

theorem silent_log_then {α : Type} (logger : Logger) (message : Text) (a : α) :
    Silent (logger.log message >>= fun _ => pure a) := by
  intro w
  rw [log_bind]
  simp

theorem Silent.bind {α β : Type} {x : Exec α} {f : α → Exec β} (first : Silent x)
    (rest : ∀ a, Silent (f a)) : Silent (x >>= f) :=
  fun w => (Silent.after rest x w).trans (first w)

/-- What is done with the answer to the question. -/
theorem silent_decoded (logger : Logger) (decoded : Option Address) :
    Silent (match decoded with
      | none => throw ⟨.nullPointer, none⟩
      | some address => do
          let coinbase ← liftM (Address.ofBytes address.toByteArray)
          logger.log (coinbaseLine coinbase)
          pure coinbase : Exec Address) := by
  cases decoded with
  | none => exact fun _ => rfl
  | some address => exact (silent_lift _).bind fun coinbase => silent_log_then logger _ coinbase

theorem getCoinbaseAddress_asks (settings : Settings) (given : settings.coinbaseAddress = some [])
    (rpc : RPC) (logger : Logger) (w : World) :
    AsksAtMost lib settings w
      ((getCoinbaseAddress lib rpc logger settings.networkName settings.identityAddressString).run
        w).2 := by
  cases identity : settings.identityAddressString with
  | none => exact .inl rfl
  | some identityString =>
      cases network : settings.networkName with
      | none => exact .inl rfl
      | some networkName =>
          unfold getCoinbaseAddress
          dsimp only
          cases found : stakerRegistryAddress networkName with
          | error e => exact .inl rfl
          | ok registry =>
              cases converted : getAddressFromString lib identityString with
              | error e =>
                  exact .inl ((calls_append w.events [.log _]).trans (List.append_nil _))
              | ok address =>
                  refine .inr ⟨_, .mk given network found identity converted, ?_⟩
                  have asked := Silent.after
                    (fun value => (silent_lift (lib.decodeOneAddress value)).bind
                      (silent_decoded logger))
                    (rpc.call lib (registryCall lib registry address))
                    (w.emit (.log (retrievingLine registry)))
                  refine asked.trans ?_
                  rw [RPC.call_run]
                  simp

theorem AsksAtMost.lift {α β : Type} {settings : Settings} {w : World}
    (result : Except JavaException α) {f : α → Exec β}
    (rest : ∀ a, AsksAtMost lib settings w ((f a).run w).2) :
    AsksAtMost lib settings w (((liftM result : Exec α) >>= f).run w).2 := by
  cases result with
  | error e => exact .inl rfl
  | ok a => exact rest a

theorem AsksAtMost.after {α β : Type} {settings : Settings} {w : World} {x : Exec α}
    {f : α → Exec β} (first : AsksAtMost lib settings w (x.run w).2) (rest : ∀ a, Silent (f a)) :
    AsksAtMost lib settings w ((x >>= f).run w).2 := by
  rw [AsksAtMost, Silent.after rest]
  exact first

theorem start_asks (settings : Settings) (w : World) :
    AsksAtMost lib settings w ((start lib settings).run w).2 := by
  have produces : ∀ (key : PrivateKey lib) (rpc : RPC) (coinbase : Address),
      Silent (settings.logger.log producingLine >>= fun _ =>
        pure ⟨key, rpc, coinbase, settings.logger⟩ : Exec (Signer lib)) :=
    fun key rpc coinbase => silent_log_then _ _ _
  apply AsksAtMost.lift
  intro key
  apply AsksAtMost.lift
  intro rpc
  cases given : settings.coinbaseAddress with
  | none => exact .inl rfl
  | some text =>
      dsimp only
      split
      · apply AsksAtMost.lift
        intro coinbase
        exact .inl (produces key rpc coinbase w)
      · next blank =>
          rw [List.eq_nil_of_length_eq_zero (Nat.eq_zero_of_not_pos blank)] at given
          exact (getCoinbaseAddress_asks settings given rpc _ w).after (produces key rpc)

/-- Without settings nothing happens. -/
theorem main_idle {files : Text → Except JavaException Properties} {args : List Text}
    (unresolved : ¬ ∃ settings, resolve files args = .ok (some settings)) (w : World) :
    ((main lib files args).run w).2 = w := by
  cases resolved : resolve files args with
  | error e =>
      simp only [main, resolved]
      rfl
  | ok settings =>
      cases settings with
      | none =>
          simp only [main, resolved]
          rfl
      | some settings => exact absurd ⟨settings, resolved⟩ unresolved

/-- A launch leaves the world as its start does. -/
theorem main_world {files : Text → Except JavaException Properties} {args : List Text}
    {settings : Settings} (resolved : resolve files args = .ok (some settings)) (w : World) :
    ((main lib files args).run w).2 = ((start lib settings).run w).2 := by
  cases started : (start lib settings).run w with
  | mk result v =>
      cases result with
      | error e => rw [main_error resolved started]
      | ok signer => rw [main_ok resolved started]

/-- Whether it gets to the loop or fails, a launch asks the node at most the one
    question its settings give rise to. -/
theorem main_asks (files : Text → Except JavaException Properties) (args : List Text) (w : World) :
    calls ((main lib files args).run w).2.events = calls w.events ∨
      ∃ settings, resolve files args = .ok (some settings) ∧
        AsksAtMost lib settings w ((main lib files args).run w).2 := by
  by_cases launch : ∃ settings, resolve files args = .ok (some settings)
  · obtain ⟨settings, resolved⟩ := launch
    refine .inr ⟨settings, resolved, ?_⟩
    rw [main_world resolved]
    exact start_asks settings w
  · exact .inl (by rw [main_idle launch])

/-- A launch gets to the loop in the two ways of `Starts` and in no other, and
    whatever becomes of it, it asks at most the question to the staker registry. -/
theorem main_launch (files : Text → Except JavaException Properties) (args : List Text)
    (w : World) :
    (∀ (signer : Signer lib) v, (main lib files args).run w = (.ok (some signer), v) ↔
      ∃ settings, resolve files args = .ok (some settings) ∧ Starts lib settings w signer v) ∧
    (calls ((main lib files args).run w).2.events = calls w.events ∨
      ∃ settings, resolve files args = .ok (some settings) ∧
        AsksAtMost lib settings w ((main lib files args).run w).2) :=
  ⟨fun signer v => main_ok_iff files args w v signer, main_asks files args w⟩

end BlockSigner
