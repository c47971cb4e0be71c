import FrameRpc.Proofs.Json.Records
import FrameRpc.Config.Store
set_option autoImplicit false

/-!
Saved settings load back.

The settings are saved as the pretty text of their JSON value, one member per line, and may
also be written compactly. Either text is read back as the same settings, for every log
level and every engine setting that the settings' types can hold: the addresses are written
as text that parses back to them, the VLAN ids and counts as their decimal digits, the
flag as `true` or `false`, and every key names the field it was written from. Main
statement: `parse_saved_settings`.
-/

namespace FrameRpc

open Json

/-- The engine settings that the settings' types hold: the 64-bit counts below `2^64` and the
32-bit ones below `2^32`. -/
def EngineConfig.Representable (c : EngineConfig) : Prop :=
  c.attemptTimeoutMs ≤ u64Max ∧ c.retryBudget ≤ Nat.pow 2 32 - 1 ∧ c.busyBackoffMs ≤ u64Max ∧
    c.maxPayload ≤ u64Max ∧ c.dropLogBurst ≤ Nat.pow 2 32 - 1 ∧ c.dropLogWindowMs ≤ u64Max

instance (c : EngineConfig) : Decidable c.Representable :=
  inferInstanceAs (Decidable (_ ∧ _))

def ScalarLayout (layout : Value → List UInt8) : Prop :=
  (∀ s, layout (.str s) = bytesOf (quote s)) ∧ (∀ n, layout (.nat n) = bytesOf (toString n)) ∧
    ∀ b, layout (.bool b) = bytesOf (boolText b)

theorem scalarLayout_prettyAt (depth : Nat) : ScalarLayout fun v => bytesOf (v.prettyAt depth) :=
  ⟨fun _ => rfl, fun _ => rfl, fun _ => rfl⟩

theorem scalarLayout_compact : ScalarLayout fun v => bytesOf v.compact :=
  ⟨fun _ => rfl, fun _ => rfl, fun _ => rfl⟩

section decoders

variable {ws : List UInt8} {after : List UInt8 → Prop}

theorem macDecoder_reads (blank : Blank ws) (m : Mac) :
    Reads macDecoder.read (ws ++ bytesOf (quote m.text)) m after := by
  have parsed : (Mac.parse m.text).mapError FrameError.message = .ok m := by
    rw [Mac.parse_eq_ok_iff.mpr (Mac.text_spells m)]
    rfl
  refine Reads.bind_nil (readString_quote blank m.text) ?_
  simp only [parsed]
  exact Reads.pure m

theorem vlanDecoder_reads (blank : Blank ws) (v : UInt16) :
    Reads vlanDecoder.read (ws ++ bytesOf (toString v.toNat)) v EndsNumber := by
  have within : v.toNat ≤ 65535 := by have := v.toNat_lt; omega
  have digits := (readUnsigned_digits blank "u16" within (Nat.le_trans within (by decide))).map
    Nat.toUInt16
  rwa [show Nat.toUInt16 v.toNat = v from UInt16.ofNat_toNat] at digits

end decoders

def objectMembers : Value → List (String × Value)
  | .obj ms => ms
  | _ => []

section fields

variable {layout : Value → List UInt8} (scalar : ScalarLayout layout) {cg : List UInt8}
  (hcg : Blank cg) {σ : Type}
include scalar hcg

theorem string_value (set : String → σ) (s : String) :
    Reads (Decoder.string.map set).read (cg ++ layout (.str s)) (set s) EndsValue := by
  rw [scalar.1]
  exact (readString_quote hcg s).map set

theorem mac_value (set : Mac → σ) (m : Mac) :
    Reads (macDecoder.map set).read (cg ++ layout (.str m.text)) (set m) EndsValue := by
  rw [scalar.1]
  exact (macDecoder_reads hcg m).map set

theorem vlan_value (set : UInt16 → σ) (v : UInt16) :
    Reads (vlanDecoder.map set).read (cg ++ layout (.nat v.toNat)) (set v) EndsValue := by
  rw [scalar.2.1]
  exact ((vlanDecoder_reads hcg v).map set).mono fun _ ends => ends.endsNumber

theorem unsigned_value (typeName : String) {max n : Nat} (set : Nat → σ) (within : n ≤ max)
    (fits : n ≤ u64Max) :
    Reads ((Decoder.unsigned typeName max).map set).read (cg ++ layout (.nat n)) (set n) EndsValue := by
  rw [scalar.2.1]
  exact ((readUnsigned_digits hcg typeName within fits).map set).mono fun _ ends => ends.endsNumber

theorem bool_value (set : Bool → σ) (b : Bool) :
    Reads (Decoder.bool.map set).read (cg ++ layout (.bool b)) (set b) EndsValue := by
  rw [scalar.2.2]
  exact (readBool_text hcg b).map set

end fields

section engine

def engineUpdates (c : EngineConfig) : List (EngineConfig → EngineConfig) :=
  [fun a => { a with localMac := c.localMac }, fun a => { a with remoteMac := c.remoteMac },
   fun a => { a with outerVlan := c.outerVlan }, fun a => { a with innerVlan := c.innerVlan },
   fun a => { a with attemptTimeoutMs := c.attemptTimeoutMs },
   fun a => { a with retryBudget := c.retryBudget },
   fun a => { a with busyBackoffMs := c.busyBackoffMs }, fun a => { a with maxPayload := c.maxPayload },
   fun a => { a with traceFrames := c.traceFrames }, fun a => { a with dropLogBurst := c.dropLogBurst },
   fun a => { a with dropLogWindowMs := c.dropLogWindowMs }]

/-- The engine settings `c` as printed in a layout: each field with the bytes of its value in
`c` and the update that reading them makes. -/
def engineMembers (layout : Value → List UInt8) (c : EngineConfig) : List (Member EngineConfig) :=
  ((engineFields.zip (engineUpdates c)).zip (objectMembers c.toValue)).map
    fun p => ⟨p.1.1, layout p.2.2, p.1.2⟩

variable (layout : Value → List UInt8) (c : EngineConfig)

theorem engineMembers_printed :
    (engineMembers layout c).map (·.printed) = (objectMembers c.toValue).map fun kv => (kv.1, layout kv.2) :=
  rfl

theorem applyAll_engineMembers : Member.applyAll (engineMembers layout c) EngineConfig.default = c :=
  rfl

theorem engineMembers_keys :
    (engineMembers layout c).map (·.field.key) = engineFields.map (·.key) :=
  rfl

theorem engineFields_keys_nodup : (engineFields.map (·.key)).Nodup := by
  decide

theorem engineMembers_readsAfter {layout : Value → List UInt8} (scalar : ScalarLayout layout)
    {cg : List UInt8} (hcg : Blank cg) {c : EngineConfig} (hc : c.Representable) :
    ∀ m ∈ engineMembers layout c, m.ReadsAfter cg := by
  obtain ⟨timeout, budget, backoff, payload, burst, window⟩ := hc
  have small : Nat.pow 2 32 - 1 ≤ u64Max := by decide
  simp only [engineMembers, engineFields, engineUpdates, objectMembers, EngineConfig.toValue,
    List.zip_cons_cons, List.zip_nil_left, List.map_cons, List.map_nil, List.forall_mem_cons,
    List.not_mem_nil, IsEmpty.forall_iff, implies_true, and_true]
  refine ⟨fun _ => mac_value scalar hcg _ _, fun _ => mac_value scalar hcg _ _,
    fun _ => vlan_value scalar hcg _ _, fun _ => vlan_value scalar hcg _ _,
    fun _ => unsigned_value scalar hcg _ _ timeout timeout,
    fun _ => unsigned_value scalar hcg _ _ budget (Nat.le_trans budget small),
    fun _ => unsigned_value scalar hcg _ _ backoff backoff,
    fun _ => unsigned_value scalar hcg _ _ payload payload,
    fun _ => bool_value scalar hcg _ _,
    fun _ => unsigned_value scalar hcg _ _ burst (Nat.le_trans burst small),
    fun _ => unsigned_value scalar hcg _ _ window window⟩

theorem readEngine_reads {layout : Value → List UInt8} (scalar : ScalarLayout layout)
    {ws gap cg last : List UInt8} (hws : Blank ws) (hgap : Blank gap) (hcg : Blank cg)
    (hlast : Blank last) {c : EngineConfig} (hc : c.Representable) {after : List UInt8 → Prop} :
    Reads EngineConfig.decoder.read
      (ws ++ [0x7b] ++ memberBytes gap cg true ((objectMembers c.toValue).map fun kv => (kv.1, layout kv.2)) ++
        last ++ [0x7d]) c after := by
  have fields : (engineMembers layout c).map (·.field) = engineFields := rfl
  have record : Reads EngineConfig.decoder.read _ _ after :=
    readRecord_reads "EngineConfig" engineFields EngineConfig.default hws hgap hlast
      (engineMembers layout c) (by rw [engineMembers_keys]; exact engineFields_keys_nodup)
      (fun m hm => find?_key_of_nodup engineFields engineFields_keys_nodup m.field
        (by rw [← fields]; exact List.mem_map_of_mem hm))
      (engineMembers_readsAfter scalar hcg hc)
  rwa [engineMembers_printed, applyAll_engineMembers] at record

end engine

section settings

def configUpdates (c : Config) : List (Config → Config) :=
  [fun a => { a with logLevel := c.logLevel }, fun a => { a with engine := c.engine }]

def configMembers (layout : Value → List UInt8) (c : Config) : List (Member Config) :=
  ((configFields.zip (configUpdates c)).zip (objectMembers c.toValue)).map
    fun p => ⟨p.1.1, layout p.2.2, p.1.2⟩

theorem readConfig_reads {layout : Value → List UInt8} (scalar : ScalarLayout layout)
    {gap cg last : List UInt8} (hgap : Blank gap) (hcg : Blank cg) (hlast : Blank last)
    (c : Config)
    (engine : ∀ acc : Config, Reads ((EngineConfig.decoder.map fun v => { acc with engine := v }).read)
      (cg ++ layout c.engine.toValue) { acc with engine := c.engine } EndsValue)
    {after : List UInt8 → Prop} :
    Reads Config.decoder.read
      ([] ++ [0x7b] ++ memberBytes gap cg true ((objectMembers c.toValue).map fun kv => (kv.1, layout kv.2)) ++
        last ++ [0x7d]) c after := by
  have fields : (configMembers layout c).map (·.field) = configFields := rfl
  have distinct : (configFields.map (·.key)).Nodup := by decide
  have values : ∀ m ∈ configMembers layout c, m.ReadsAfter cg := by
    simp only [configMembers, configFields, configUpdates, objectMembers, Config.toValue,
      List.zip_cons_cons, List.zip_nil_left, List.map_cons, List.map_nil, List.forall_mem_cons,
      List.not_mem_nil, IsEmpty.forall_iff, implies_true, and_true]
    exact ⟨fun _ => string_value scalar hcg _ _, engine⟩
  have record : Reads Config.decoder.read _ _ after :=
    readRecord_reads "Config" configFields Config.default blank_nil hgap hlast (configMembers layout c)
      distinct
      (fun m hm => find?_key_of_nodup configFields distinct m.field
        (by rw [← fields]; exact List.mem_map_of_mem hm))
      values
  exact record

end settings

section saved

theorem blank_indent (depth : Nat) : Blank (bytesOf (indent depth)) := by
  have space : String.utf8EncodeChar ' ' = [0x20] := by decide
  intro b hb
  simp only [bytesOf, indent, String.toList_ofList, List.mem_flatMap, List.mem_replicate] at hb
  obtain ⟨c, ⟨-, rfl⟩, hb⟩ := hb
  rw [space, List.mem_singleton] at hb
  rw [hb]
  rfl

theorem blank_line (depth : Nat) : Blank (0x0a :: bytesOf (indent depth)) := by
  intro b hb
  rcases List.mem_cons.mp hb with rfl | deeper
  · rfl
  · exact blank_indent depth b deeper

theorem blank_space : Blank [0x20] := by
  intro b hb
  rw [List.mem_singleton.mp hb]
  rfl

theorem toValue_members (c : Config) :
    c.toValue = .obj (("log_level", .str c.logLevel) :: [("engine", c.engine.toValue)]) := rfl

theorem engine_toValue_members (c : EngineConfig) :
    ∃ m ms, c.toValue = .obj (m :: ms) ∧ objectMembers c.toValue = m :: ms :=
  ⟨_, _, rfl, rfl⟩

/-- Saved settings, and settings written compactly, are read back as themselves, for every
log level and every engine setting that the settings' types can hold. -/
theorem parse_saved_settings (c : Config) (fits : c.engine.Representable) :
    Config.parse c.fileText = .ok c ∧ Config.parse c.toValue.compact = .ok c := by
  obtain ⟨m, ms, engineObj, engineMembers⟩ := engine_toValue_members c.engine
  constructor
  · -- two-space indentation: the engine's members one level deeper than the settings'
    have engine : ∀ acc : Config, Reads ((EngineConfig.decoder.map fun v => { acc with engine := v }).read)
        ([0x20] ++ bytesOf (c.engine.toValue.prettyAt 1)) { acc with engine := c.engine } EndsValue := by
      intro acc
      have inner : Reads EngineConfig.decoder.read _ c.engine EndsValue :=
        readEngine_reads (scalarLayout_prettyAt 2) blank_space (blank_line 2) blank_space
          (blank_line 1) fits
      rw [engineObj, bytesOf_prettyAt_obj, ← engineMembers]
      simp only [List.append_assoc, List.nil_append] at inner ⊢
      exact inner.map _
    have text : Reads Config.decoder.read (bytesOf c.fileText) c fun _ => True := by
      rw [Config.fileText, Value.pretty, toValue_members, bytesOf_prettyAt_obj]
      exact readConfig_reads (scalarLayout_prettyAt 1) (blank_line 1) blank_space (blank_line 0) c
        engine
    exact readText_of_reads text trivial
  · -- no blanks at all
    have engine : ∀ acc : Config, Reads ((EngineConfig.decoder.map fun v => { acc with engine := v }).read)
        ([] ++ bytesOf c.engine.toValue.compact) { acc with engine := c.engine } EndsValue := by
      intro acc
      have inner : Reads EngineConfig.decoder.read _ c.engine EndsValue :=
        readEngine_reads scalarLayout_compact blank_nil blank_nil blank_nil blank_nil fits
      rw [engineObj, bytesOf_compact_obj, ← engineMembers]
      simp only [List.append_assoc, List.nil_append] at inner ⊢
      exact inner.map _
    have text : Reads Config.decoder.read (bytesOf c.toValue.compact) c fun _ => True := by
      rw [toValue_members, bytesOf_compact_obj]
      exact readConfig_reads scalarLayout_compact blank_nil blank_nil blank_nil c engine
    exact readText_of_reads text trivial

/-- Settings at the edges of their types: the 64-bit counts at `2^64 - 1`, the 32-bit ones at
`2^32 - 1`, and a log level holding a quote, a backslash and a new line. -/
def edgeSettings : Config :=
  { logLevel := "de\"bu\\g\n"
    engine :=
      { EngineConfig.default with
        attemptTimeoutMs := u64Max
        retryBudget := Nat.pow 2 32 - 1
        busyBackoffMs := u64Max
        maxPayload := u64Max
        traceFrames := true
        dropLogBurst := Nat.pow 2 32 - 1
        dropLogWindowMs := u64Max } }

theorem parse_saved_edge_settings :
    edgeSettings.engine.Representable ∧
      (Config.parse edgeSettings.fileText = .ok edgeSettings ∧
        Config.parse edgeSettings.toValue.compact = .ok edgeSettings) :=
  ⟨by decide, parse_saved_settings edgeSettings (by decide)⟩

end saved

end FrameRpc
