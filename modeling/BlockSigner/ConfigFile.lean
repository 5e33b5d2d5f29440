import BlockSigner.Property.Reader
import BlockSigner.Start

/-! # Configuration files

What a configuration file says, from its bytes on: `Properties.load` reads them as
ISO 8859-1 text of the properties format. The template that comes with the signer
starts it as the command line does, whatever is filled in.
-/

namespace BlockSigner

variable {lib : Libraries}

/-! ## Reading -/

/-- ISO 8859-1. -/
def latin1 (content : Bytes) : Text := content.map fun b => Char.ofNat b.toNat

def latin1Bytes (text : Text) : Bytes := text.map fun c => UInt8.ofNat c.toNat

def Latin1Char (c : Char) : Prop := c.toNat < 256

instance (c : Char) : Decidable (Latin1Char c) := inferInstanceAs (Decidable (_ < _))

theorem latin1_bytes {text : Text} (small : ∀ c ∈ text, Latin1Char c) :
    latin1 (latin1Bytes text) = text := by
  rw [latin1, latin1Bytes, List.map_map]
  refine (List.map_congr_left ?_).trans (List.map_id text)
  intro c member
  have kept : (UInt8.ofNat c.toNat).toNat = c.toNat := by
    rw [UInt8.toNat_ofNat']
    exact Nat.mod_eq_of_lt (small c member)
  rw [Function.comp_apply, kept, Char.ofNat_toNat, id]

def Properties.load (content : Bytes) : Except JavaException Properties :=
  match Property.load (latin1 content) with
  | some entries => pure (Property.lookup entries)
  | none => throw (exception .illegalArgument "Malformed \\uxxxx encoding.")

/-- The properties in the files of a file system. -/
def configFiles (fileSystem : Text → Except JavaException Bytes) (path : Text) :
    Except JavaException Properties := do
  let content ← fileSystem path
  Properties.load content

/-- The settings that the entries of a file give. -/
def fileSettings (entries : List (Text × Text)) : Settings where
  signingAddressPrivateKey := Property.lookup entries "signingAddressPrivateKey".toList
  identityAddressString := Property.lookup entries "identityAddress".toList
  networkName := Property.lookup entries "network".toList
  ip := Property.lookup entries "ip".toList
  port := Property.lookup entries "port".toList
  verboseLoggingEnabled :=
    parseBoolean (Property.lookup entries "verboseLoggingEnabled".toList)
  coinbaseAddress := Property.lookup entries "coinbaseAddress".toList

theorem Properties.load_eq_ok_iff (content : Bytes) (properties : Properties) :
    Properties.load content = .ok properties ↔
      ∃ entries, Property.Denotes (latin1 content) entries ∧ properties = Property.lookup entries := by
  rw [Properties.load]
  cases read : Property.load (latin1 content) with
  | none =>
      constructor
      · intro made
        cases made
      · rintro ⟨entries, denotes, _⟩
        rw [(Property.load_iff _ entries).mpr denotes] at read
        cases read
  | some entries =>
      constructor
      · intro made
        cases made
        exact ⟨entries, (Property.load_iff _ entries).mp read, rfl⟩
      · rintro ⟨entries', denotes, rfl⟩
        rw [(Property.load_iff _ entries').mpr denotes] at read
        cases read
        rfl

theorem Config.load_eq_ok_iff (files : Text → Except JavaException Properties) (path : Text)
    (config : Config) : Config.load files path = .ok config ↔ files path = .ok config.properties := by
  rw [Config.load]
  cases files path with
  | ok properties =>
      constructor
      · intro made
        cases made
        rfl
      · intro same
        cases same
        rfl
  | error e =>
      dsimp only
      constructor
      · intro made
        split at made <;> cases made
      · intro same
        cases same

theorem configFiles_eq_ok_iff (fileSystem : Text → Except JavaException Bytes) (path : Text)
    (properties : Properties) :
    configFiles fileSystem path = .ok properties ↔
      ∃ content entries, fileSystem path = .ok content ∧
        Property.Denotes (latin1 content) entries ∧ properties = Property.lookup entries := by
  rw [configFiles]
  cases fileSystem path with
  | error e =>
      constructor
      · intro made
        cases made
      · rintro ⟨content, _, same, _⟩
        cases same
  | ok content =>
      constructor
      · intro made
        obtain ⟨entries, denotes, same⟩ := (Properties.load_eq_ok_iff content properties).mp made
        exact ⟨content, entries, rfl, denotes, same⟩
      · rintro ⟨content', entries, same, denotes, looked⟩
        cases same
        exact (Properties.load_eq_ok_iff content properties).mpr ⟨entries, denotes, looked⟩

/-- With a configuration file the settings are what its entries give. -/
theorem resolve_config_iff (fileSystem : Text → Except JavaException Bytes) (path : Text)
    (settings : Settings) :
    resolve (configFiles fileSystem) ["-config".toList, path] = .ok (some settings) ↔
      ∃ content entries, fileSystem path = .ok content ∧
        Property.Denotes (latin1 content) entries ∧ settings = fileSettings entries := by
  change (Config.load (configFiles fileSystem) path >>= fun _ => _) = _ ↔ _
  constructor
  · intro resolved
    cases loaded : Config.load (configFiles fileSystem) path with
    | error e =>
        rw [loaded] at resolved
        cases resolved
    | ok config =>
        obtain ⟨content, entries, held, denotes, same⟩ := (configFiles_eq_ok_iff fileSystem path
          config.properties).mp ((Config.load_eq_ok_iff _ path config).mp loaded)
        rw [loaded] at resolved
        refine ⟨content, entries, held, denotes, ?_⟩
        cases resolved
        simp only [Config.getConfigValue, same]
        rfl
  · rintro ⟨content, entries, held, denotes, rfl⟩
    have files := (configFiles_eq_ok_iff fileSystem path _).mpr ⟨content, entries, held, denotes, rfl⟩
    rw [(Config.load_eq_ok_iff _ path ⟨Property.lookup entries⟩).mpr files]
    rfl

/-- A launch from a configuration file gets to the loop exactly if the bytes of the
    file are a properties file whose entries are settings that start the signer. -/
theorem config_launch_iff (fileSystem : Text → Except JavaException Bytes) (path : Text) (w v : World)
    (signer : Signer lib) :
    (main lib (configFiles fileSystem) ["-config".toList, path]).run w = (.ok (some signer), v) ↔
      ∃ content entries, fileSystem path = .ok content ∧
        Property.Denotes (latin1 content) entries ∧ Starts lib (fileSettings entries) w signer v := by
  rw [main_ok_iff]
  constructor
  · rintro ⟨settings, resolved, starts⟩
    obtain ⟨content, entries, held, denotes, rfl⟩ := (resolve_config_iff fileSystem path settings).mp resolved
    exact ⟨content, entries, held, denotes, starts⟩
  · rintro ⟨content, entries, held, denotes, starts⟩
    exact ⟨_, (resolve_config_iff fileSystem path _).mpr ⟨content, entries, held, denotes, rfl⟩, starts⟩

/-! ## Files of plain lines -/

/-- A line of a file in which nothing has to be escaped. -/
inductive ConfigLine where
  | comment (text : Text)
  | blank
  | setting (key value : Text)

namespace ConfigLine

def text : ConfigLine → Text
  | .comment text => '#' :: text
  | .blank => []
  | .setting key value => key ++ '=' :: value

def entry? : ConfigLine → Option (Text × Text)
  | .setting key value => some (key, value)
  | _ => none

/-- A character that can stand in a line of a file. -/
def PlainChar (c : Char) : Prop := Text.isTerminator c = false ∧ Latin1Char c

instance (c : Char) : Decidable (PlainChar c) := inferInstanceAs (Decidable (_ ∧ _))

/-- A character of a plain key. -/
def PlainKeyChar (c : Char) : Prop :=
  PlainChar c ∧ Property.keyChar c = true ∧ Property.isMark c = false ∧ c ≠ '\\'

instance (c : Char) : Decidable (PlainKeyChar c) := inferInstanceAs (Decidable (_ ∧ _))

/-- A value that can be written down as it is. -/
structure PlainValue (value : Text) : Prop where
  plain : ∀ c ∈ value, PlainChar c
  flush : Property.Flush value
  backslash : '\\' ∉ value

/-- A line that means what it shows. -/
def Plain : ConfigLine → Prop
  | .comment text => ∀ c ∈ text, PlainChar c
  | .blank => True
  | .setting key value => key ≠ [] ∧ (∀ c ∈ key, PlainKeyChar c) ∧ PlainValue value

theorem continues_of_not_mem {t : Text} (absent : '\\' ∉ t) : Property.continues t = false := by
  induction t with
  | nil => rfl
  | cons c t ih =>
      rw [List.mem_cons, not_or] at absent
      rw [Property.continues_plain (Ne.symm absent.1), ih absent.2]

theorem written_of_not_mem {free : Char → Bool} {t : Text} (allowed : ∀ c ∈ t, free c = true)
    (absent : '\\' ∉ t) : Property.Written free t t := by
  induction t with
  | nil => exact .nil
  | cons c t ih =>
      rw [List.mem_cons, not_or] at absent
      rw [List.forall_mem_cons] at allowed
      exact .plain allowed.1 (Ne.symm absent.1) (ih allowed.2 absent.2)

theorem Plain.text {line : ConfigLine} (plain : line.Plain) : ∀ c ∈ line.text, PlainChar c := by
  have mark : PlainChar '#' := by decide
  have separator : PlainChar '=' := by decide
  cases line with
  | comment text => exact List.forall_mem_cons.mpr ⟨mark, plain⟩
  | blank => exact List.forall_mem_nil _
  | setting key value =>
      obtain ⟨_, key, value⟩ := plain
      exact List.forall_mem_append.mpr
        ⟨fun c member => (key c member).1, List.forall_mem_cons.mpr ⟨separator, value.plain⟩⟩

/-- What would do for a key does for a value. -/
theorem PlainValue.of_keyChars {value : Text} (plain : ∀ c ∈ value, PlainKeyChar c) :
    PlainValue value where
  plain c member := (plain c member).1
  flush c head := by
    have free := (plain c (List.mem_of_mem_head? head)).2.1
    simp only [Property.keyChar, Bool.not_eq_true', Bool.or_eq_false_iff] at free
    exact free.2
  backslash member := (plain _ member).2.2.2 rfl

/-- Hex text can be written down as it is. -/
theorem PlainValue.encode (bytes : Bytes) : PlainValue (Hex.encode bytes) := by
  have digits : ∀ n < 16, PlainKeyChar (Hex.digit n) := by decide
  apply PlainValue.of_keyChars
  intro c member
  obtain ⟨n, small, rfl⟩ := Hex.mem_encode member
  exact digits n small

theorem PlainValue.no_backslash {key value : Text} (plain : ∀ c ∈ key, PlainKeyChar c)
    (plain' : PlainValue value) : '\\' ∉ key ++ '=' :: value := by
  intro member
  rcases List.mem_append.mp member with inKey | inValue
  · exact (plain _ inKey).2.2.2 rfl
  · rcases List.mem_cons.mp inValue with separator | inValue
    · cases separator
    · exact plain'.backslash inValue

theorem setting_entry {key value : Text} (plain : ∀ c ∈ key, PlainKeyChar c)
    (plain' : PlainValue value) : Property.Entry (key ++ '=' :: value) (key, value) := by
  have nothing : Property.Blank [] := by simp [Property.Blank]
  have written := written_of_not_mem (fun c member => (plain c member).2.1)
    fun member => (plain _ member).2.2.2 rfl
  exact .mk written (.separator nothing rfl nothing plain'.flush)
    (written_of_not_mem (fun _ _ => rfl) plain'.backslash)

/-- What a plain line adds to the document in front of which it stands. -/
theorem Plain.document {line : ConfigLine} {natural logical : List Text}
    {entries : List (Text × Text)} (plain : line.Plain) (rest : Property.Document natural logical)
    (same : List.Forall₂ Property.Entry logical entries) :
    ∃ logical', Property.Document (line.text :: natural) logical' ∧
      List.Forall₂ Property.Entry logical' (line.entry?.toList ++ entries) := by
  have nothing : Property.Blank [] := by simp [Property.Blank]
  cases line with
  | comment text => exact ⟨logical, .comment nothing rfl rest, same⟩
  | blank => exact ⟨logical, .blank (.last nothing Property.flush_nil rfl) rest, same⟩
  | setting key value =>
      obtain ⟨nonempty, keyPlain, valuePlain⟩ := plain
      obtain ⟨c, key, rfl⟩ := List.exists_cons_of_ne_nil nonempty
      have head := keyPlain c List.mem_cons_self
      have flush : Property.Flush (c :: (key ++ '=' :: value)) := by
        intro d first
        cases first
        have free := head.2.1
        simp only [Property.keyChar, Bool.not_eq_true', Bool.or_eq_false_iff] at free
        exact free.2
      have spread : Property.Spread [c :: (key ++ '=' :: value)] (c :: (key ++ '=' :: value)) :=
        .last nothing flush (continues_of_not_mem (valuePlain.no_backslash keyPlain))
      have unmarked : Property.Unmarked [c :: (key ++ '=' :: value)] := by
        intro first given
        cases given
        rw [← List.nil_append (c :: (key ++ '=' :: value)), Property.dropWhile_blank nothing flush]
        exact head.2.2.1
      exact ⟨_, .entry spread (List.cons_ne_nil _ _) unmarked rest,
        .cons (setting_entry keyPlain valuePlain) same⟩

/-- A file of plain lines. -/
def file (lines : List ConfigLine) : Text := lines.flatMap fun line => line.text ++ ['\n']

/-- A file of plain lines means what its lines show. -/
theorem file_denotes {lines : List ConfigLine} (plain : ∀ line ∈ lines, line.Plain) :
    Property.Denotes (file lines) (lines.filterMap entry?) := by
  have natural : Property.Lines (file lines) (lines.map text) := by
    induction lines with
    | nil => exact .nil
    | cons line lines ih =>
        rw [List.forall_mem_cons] at plain
        have oneLine : Json.OneLine line.text := fun c member => (plain.1.text c member).1
        have first := Property.Lines.lf oneLine (ih plain.2)
        rw [file, List.flatMap_cons, List.append_assoc]
        exact first
  have document : ∃ logical, Property.Document (lines.map text) logical ∧
      List.Forall₂ Property.Entry logical (lines.filterMap entry?) := by
    clear natural
    induction lines with
    | nil => exact ⟨[], .nil, .nil⟩
    | cons line lines ih =>
        rw [List.forall_mem_cons] at plain
        obtain ⟨logical, rest, same⟩ := ih plain.2
        obtain ⟨logical', document, same'⟩ := plain.1.document rest same
        refine ⟨logical', document, ?_⟩
        rw [List.filterMap_cons]
        cases shown : line.entry? with
        | none =>
            rw [shown] at same'
            exact same'
        | some pair =>
            rw [shown] at same'
            exact same'
  obtain ⟨logical, document, same⟩ := document
  exact .mk natural document same

theorem file_latin1 {lines : List ConfigLine} (plain : ∀ line ∈ lines, line.Plain) :
    ∀ c ∈ file lines, Latin1Char c := by
  intro c member
  obtain ⟨line, inLines, inLine⟩ := List.mem_flatMap.mp member
  rcases List.mem_append.mp inLine with shown | ended
  · exact ((plain line inLines).text c shown).2
  · rw [List.mem_singleton.mp ended]
    decide

end ConfigLine

/-! ## The template -/

/-- What is filled in. -/
structure Filling where
  signingAddressPrivateKey : Text
  identityAddress : Text
  network : Text
  ip : Text
  port : Text
  verboseLoggingEnabled : Text

namespace Filling

/-- The lines of `config.properties`. -/
def template (filling : Filling) : List ConfigLine :=
  [ .comment " The private key of the signing address of the registered staker".toList,
    .setting "signingAddressPrivateKey".toList filling.signingAddressPrivateKey,
    .blank,
    .comment " The identity address of the registered staker".toList,
    .setting "identityAddress".toList filling.identityAddress,
    .blank,
    .comment " Network name: amity or mainnet".toList,
    .setting "network".toList filling.network,
    .blank,
    .comment " IP address of a Unity-enabled node accepting RPC requests".toList,
    .setting "ip".toList filling.ip,
    .blank,
    .comment " The port on which this node is accepting RPC requests".toList,
    .setting "port".toList filling.port,
    .blank,
    .comment " Logging level".toList,
    .setting "verboseLoggingEnabled".toList filling.verboseLoggingEnabled,
    .blank,
    .comment "---------------------------------------------------------------".toList,
    .comment
      " Following config properties are optional and mainly used for testing purposes".toList,
    .setting "coinbaseAddress".toList [] ]

def args (filling : Filling) : List Text :=
  [filling.signingAddressPrivateKey, filling.identityAddress, filling.network, filling.ip,
    filling.port, filling.verboseLoggingEnabled]

theorem plain_setting {letters : List Char} {value : Text} (nonempty : letters ≠ [])
    (holds : letters.all (fun c => decide (ConfigLine.PlainKeyChar c)) = true)
    (plain : ConfigLine.PlainValue value) :
    (ConfigLine.setting (String.ofList letters).toList value).Plain :=
  ⟨by rwa [String.toList_ofList], Text.forall_literal holds, plain⟩

theorem plain_comment {letters : List Char}
    (holds : letters.all (fun c => decide (ConfigLine.PlainChar c)) = true) :
    (ConfigLine.comment (String.ofList letters).toList).Plain :=
  Text.forall_literal holds

theorem plain_nil : ConfigLine.PlainValue [] :=
  ⟨List.forall_mem_nil _, Property.flush_nil, List.not_mem_nil⟩

theorem template_plain {filling : Filling} (plain : ∀ value ∈ filling.args, ConfigLine.PlainValue value) :
    ∀ line ∈ filling.template, line.Plain := by
  simp only [args, List.forall_mem_cons] at plain
  obtain ⟨key, identity, network, ip, port, verbose, _⟩ := plain
  simp only [template, List.forall_mem_cons]
  exact ⟨plain_comment rfl, plain_setting (List.cons_ne_nil _ _) rfl key, trivial,
    plain_comment rfl, plain_setting (List.cons_ne_nil _ _) rfl identity, trivial,
    plain_comment rfl, plain_setting (List.cons_ne_nil _ _) rfl network, trivial,
    plain_comment rfl, plain_setting (List.cons_ne_nil _ _) rfl ip, trivial,
    plain_comment rfl, plain_setting (List.cons_ne_nil _ _) rfl port, trivial,
    plain_comment rfl, plain_setting (List.cons_ne_nil _ _) rfl verbose, trivial,
    plain_comment rfl, plain_comment rfl, plain_setting (List.cons_ne_nil _ _) rfl plain_nil,
    List.forall_mem_nil _⟩

theorem template_settings (files : Text → Except JavaException Properties) (filling : Filling) :
    resolve files filling.args =
      .ok (some (fileSettings (filling.template.filterMap ConfigLine.entry?))) := rfl

end Filling

/-- The template, filled in with anything that can be written down as it is, starts
    the signer as the command line does. -/
theorem template_launch {filling : Filling}
    (plain : ∀ value ∈ filling.args, ConfigLine.PlainValue value)
    {fileSystem : Text → Except JavaException Bytes} {path : Text}
    (held : fileSystem path = .ok (latin1Bytes (ConfigLine.file filling.template)))
    (files : Text → Except JavaException Properties) :
    main lib (configFiles fileSystem) ["-config".toList, path] = main lib files filling.args := by
  have lines := Filling.template_plain plain
  have denotes := ConfigLine.file_denotes lines
  rw [← latin1_bytes (ConfigLine.file_latin1 lines)] at denotes
  have resolved := (resolve_config_iff fileSystem path _).mpr ⟨_, _, held, denotes, rfl⟩
  simp only [main, resolved, Filling.template_settings files filling]

namespace Reference

/-- The template as a staker on the test network fills it in. -/
def filling : Filling where
  signingAddressPrivateKey := Hex.encode key.getPrivateKeyBytes
  identityAddress := Hex.encode (List.replicate 32 0xa0)
  network := "amity".toList
  ip := "127.0.0.1".toList
  port := "8545".toList
  verboseLoggingEnabled := "false".toList

theorem filling_plain : ∀ value ∈ filling.args, ConfigLine.PlainValue value := by
  have literal : ∀ {letters : List Char}, letters.all (fun c => decide (ConfigLine.PlainKeyChar c)) = true →
      ConfigLine.PlainValue (String.ofList letters).toList :=
    fun holds => .of_keyChars (Text.forall_literal holds)
  simp only [Filling.args, List.forall_mem_cons]
  exact ⟨.encode _, .encode _, literal rfl, literal rfl, literal rfl, literal rfl, List.forall_mem_nil _⟩

end Reference

/-- With this file a launch gets to the loop. -/
theorem template_launch_amity :
    ∃ (signer : Signer referenceLibraries) (v : World),
      (main referenceLibraries
        (configFiles fun _ => .ok (latin1Bytes (ConfigLine.file Reference.filling.template)))
        ["-config".toList, "config.properties".toList]).run
          ⟨fun _ => Reference.registryAnswer, [], none⟩ = (.ok (some signer), v) := by
  let values := Reference.launch (.upToVerbose "127.0.0.1".toList "8545".toList "false".toList)
  have started : ¬ Fails ((main referenceLibraries (fun _ => .error ⟨.io, none⟩) values.args).run
      ⟨fun _ => Reference.registryAnswer, [], none⟩) := by
    rw [commandLine_fails_iff]
    rintro (⟨e, rejected⟩ | fails)
    · have accepted : getStakerPrivateKey referenceLibraries values.signingAddressPrivateKey = _ :=
        getStakerPrivateKey_encode Reference.hex Reference.key
      rw [accepted] at rejected
      cases rejected
    · exact Reference.launch_looksUp _ fails
  let fileSystem : Text → Except JavaException Bytes := fun _ =>
    .ok (latin1Bytes (ConfigLine.file Reference.filling.template))
  have held : fileSystem "config.properties".toList = _ := rfl
  have same : main referenceLibraries (configFiles fileSystem)
      ["-config".toList, "config.properties".toList] = _ :=
    template_launch Reference.filling_plain held (fun _ => .error ⟨.io, none⟩)
  rw [same]
  exact (main_reaches_or_fails (resolve_args _ values) _).resolve_right started

end BlockSigner
