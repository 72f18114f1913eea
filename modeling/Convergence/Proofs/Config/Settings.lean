import Convergence.Config
import Convergence.Proofs.Decode.Settings
import Convergence.Proofs.Decode.Written
import Mathlib

/-!
# `Convergence.Proofs.Config.Settings`: the settings of a configuration file

Every setting may be left out, alone or with the table that it stands in.  `Config.AsWritten` says
what each of them is then: what is written for it, or else its preset value.  There is one such
statement for each table, with a field for each setting, and `asWritten_of_decode` proves it from
the layout of the table.

The presets are the defaults but for one (`settings_of_load`).  The style of standard output is
compact by default.  Its field stands in a format, which is a record with a default of its own, and
it is that default which a table for standard output starts from.
-/

set_option autoImplicit false

namespace Convergence

/-! ### Names -/

/-- The name of a style. -/
def LogStyle.spelling : LogStyle → String
  | compact => "compact"
  | full => "full"
  | json => "json"
  | pretty => "pretty"

/-- The name of a rotation. -/
def Rotation.spelling : Rotation → String
  | never => "never"
  | hourly => "hourly"
  | daily => "daily"

/-- A record that is read as a table is read. -/
theorem Schema.decode_of_decodeTable {ρ : Type} {s : Schema ρ} {f : Dialect} {v : Value} {r : ρ}
    (h : s.decodeTable f v = .ok r) : s.decode f v = .ok r := by
  cases v with
  | object ms => exact h
  | _ => cases h

/-! ### Formats -/

namespace LogFormat

/-- What log lines look like is what is written, or else preset. -/
structure AsWritten (written : String → Option Value) (preset x : LogFormat) : Prop where
  style : IsSet (Value.WritesChoice LogStyle.spelling) preset.style x.style (written "style")
  colors : IsSet Value.WritesBool preset.colors x.colors (written "colors")
  showThreadId : IsSet Value.WritesBool preset.showThreadId x.showThreadId
    (written "show_thread_id")
  showSource : IsSet Value.WritesBool preset.showSource x.showSource (written "show_source")

section
variable {ρ α : Type} {change : (LogFormat → LogFormat) → ρ → ρ} {name : String} {f : Dialect}
  {writes : Value → α → Prop}

/-- The names of the fields of a format. -/
def names : List String := ["style", "colors", "show_thread_id", "show_source"]

/-- The fields of a format have nothing to do with what is no part of it. -/
theorem serves_of_not_mem {get : ρ → α} (hname : name ∉ names)
    (hget : ∀ g r, get (change g r) = get r) :
    ∀ x ∈ fields change, x.Serves name f writes get := by
  simp only [names, List.mem_cons, List.not_mem_nil, or_false, not_or] at hname
  obtain ⟨hstyle, hcolors, hthread, hsource⟩ := hname
  simp only [fields, List.forall_mem_cons]
  exact ⟨.other (Ne.symm hstyle) fun _ _ => hget _ _, .other (Ne.symm hcolors) fun _ _ => hget _ _,
    .other (Ne.symm hthread) fun _ _ => hget _ _, .other (Ne.symm hsource) fun _ _ => hget _ _,
    nofun⟩

/-- What they do to a format that stands alone, they do to a format within a record. -/
theorem serves_inside {get : LogFormat → α} (h : ∀ x ∈ fields id, x.Serves name f writes get)
    {format : ρ → LogFormat} (hchange : ∀ g r, format (change g r) = g (format r)) :
    ∀ x ∈ fields change, x.Serves name f writes (get ∘ format) := by
  simp only [fields, List.forall_mem_cons] at h ⊢
  obtain ⟨hstyle, hcolors, hthread, hsource, -⟩ := h
  exact ⟨hstyle.inside hchange, hcolors.inside hchange, hthread.inside hchange,
    hsource.inside hchange, nofun⟩

theorem serves_style : ∀ x ∈ fields id,
    x.Serves "style" f (Value.WritesChoice LogStyle.spelling) style := by
  simp only [fields, List.forall_mem_cons]
  exact ⟨.own fun _ _ _ h => Decoder.writesChoice_of_choice (by decide) h,
    .other (by decide) fun _ _ => rfl, .other (by decide) fun _ _ => rfl,
    .other (by decide) fun _ _ => rfl, nofun⟩

theorem serves_colors : ∀ x ∈ fields id, x.Serves "colors" f Value.WritesBool colors := by
  simp only [fields, List.forall_mem_cons]
  exact ⟨.other (by decide) fun _ _ => rfl, .own fun _ _ _ h => Decoder.writesBool_of_bool h,
    .other (by decide) fun _ _ => rfl, .other (by decide) fun _ _ => rfl, nofun⟩

theorem serves_showThreadId :
    ∀ x ∈ fields id, x.Serves "show_thread_id" f Value.WritesBool showThreadId := by
  simp only [fields, List.forall_mem_cons]
  exact ⟨.other (by decide) fun _ _ => rfl, .other (by decide) fun _ _ => rfl,
    .own fun _ _ _ h => Decoder.writesBool_of_bool h, .other (by decide) fun _ _ => rfl, nofun⟩

theorem serves_showSource :
    ∀ x ∈ fields id, x.Serves "show_source" f Value.WritesBool showSource := by
  simp only [fields, List.forall_mem_cons]
  exact ⟨.other (by decide) fun _ _ => rfl, .other (by decide) fun _ _ => rfl,
    .other (by decide) fun _ _ => rfl, .own fun _ _ _ h => Decoder.writesBool_of_bool h, nofun⟩

/-- Where the fields of a format stand behind fields that have nothing to do with it, the format is
what is written. -/
theorem asWritten_of_fields {s : Schema ρ} {own : List (Field ρ)} (format : ρ → LogFormat)
    (hfields : s.fields = own ++ fields change)
    (hchange : ∀ g r, format (change g r) = g (format r))
    (hown : ∀ x ∈ own, x.name ∉ names ∧ x.Keeps f format) {table : Option Value} {preset r : ρ}
    (htable : IsSet (fun v r => s.decode f v = .ok r) preset r table) :
    AsWritten (fun name => table.bind (s.written? name))
      (format (if table.isSome then s.initial else preset)) (format r) := by
  -- A part of the format is set by its own field, and by none of those that stand before.
  have hsets : ∀ {β : Type} {name : String} {writes : Value → β → Prop} {get : LogFormat → β},
      name ∈ names → (∀ x ∈ fields id, x.Serves name f writes get) →
      s.Sets name f writes (get ∘ format) := by
    intro β name writes get hname hserves
    constructor
    · rw [Schema.names, hfields, List.map_append]
      exact List.mem_append_right _ hname
    · rw [hfields, List.forall_mem_append]
      refine ⟨fun x hx => .inr ⟨?_, fun v r r' hread => ?_⟩, serves_inside hserves hchange⟩
      · rintro rfl
        exact (hown x hx).1 hname
      · exact congrArg get ((hown x hx).2 v r r' hread)
  exact ⟨(hsets (by decide) serves_style).isSet_nested htable,
    (hsets (by decide) serves_colors).isSet_nested htable,
    (hsets (by decide) serves_showThreadId).isSet_nested htable,
    (hsets (by decide) serves_showSource).isSet_nested htable⟩

end

end LogFormat

/-! ### Logs -/

namespace FileLog

/-- The log file is what is written in its table, or else preset. -/
structure AsWritten (table : Option Value) (x : FileLog) : Prop where
  enabled : IsSet Value.WritesBool ({} : FileLog).enabled x.enabled
    (table.bind (schema.written? "enabled"))
  dir : IsSet Value.WritesString ({} : FileLog).dir x.dir (table.bind (schema.written? "dir"))
  name : IsSet Value.WritesString ({} : FileLog).name x.name (table.bind (schema.written? "name"))
  rotation : IsSet (Value.WritesChoice Rotation.spelling) ({} : FileLog).rotation x.rotation
    (table.bind (schema.written? "rotation"))
  format : LogFormat.AsWritten (fun name => table.bind (schema.written? name))
    ({} : FileLog).format x.format

/-- A log file that is read is what its table says. -/
theorem asWritten_of_decode {table : Option Value} {x : FileLog}
    (h : IsSet (fun v x => schema.decode .toml v = .ok x) {} x table) : AsWritten table x := by
  -- What is no part of the format is left alone by the four fields of the format.
  have hformat : ∀ {α : Type} {name : String} {writes : Value → α → Prop} {get : FileLog → α},
      name ∉ LogFormat.names → (∀ r g, get { r with format := g } = get r) →
      ∀ x ∈ LogFormat.fields fun f r => { r with format := f r.format },
        x.Serves name .toml writes get :=
    fun hname hget => LogFormat.serves_of_not_mem hname fun g r => hget r (g r.format)
  have henabled : schema.Sets "enabled" .toml Value.WritesBool enabled := by
    refine ⟨by decide, List.forall_mem_append.mpr ⟨?_, hformat (by decide) fun _ _ => rfl⟩⟩
    simp only [List.forall_mem_cons]
    exact ⟨.own fun _ _ _ h => Decoder.writesBool_of_bool h, .other (by decide) fun _ _ => rfl,
      .other (by decide) fun _ _ => rfl, .other (by decide) fun _ _ => rfl, nofun⟩
  have hdir : schema.Sets "dir" .toml Value.WritesString dir := by
    refine ⟨by decide, List.forall_mem_append.mpr ⟨?_, hformat (by decide) fun _ _ => rfl⟩⟩
    simp only [List.forall_mem_cons]
    exact ⟨.other (by decide) fun _ _ => rfl, .own fun _ _ _ h => Decoder.writesString_of_string h,
      .other (by decide) fun _ _ => rfl, .other (by decide) fun _ _ => rfl, nofun⟩
  have hname : schema.Sets "name" .toml Value.WritesString name := by
    refine ⟨by decide, List.forall_mem_append.mpr ⟨?_, hformat (by decide) fun _ _ => rfl⟩⟩
    simp only [List.forall_mem_cons]
    exact ⟨.other (by decide) fun _ _ => rfl, .other (by decide) fun _ _ => rfl,
      .own fun _ _ _ h => Decoder.writesString_of_string h, .other (by decide) fun _ _ => rfl,
      nofun⟩
  have hrotation :
      schema.Sets "rotation" .toml (Value.WritesChoice Rotation.spelling) rotation := by
    refine ⟨by decide, List.forall_mem_append.mpr ⟨?_, hformat (by decide) fun _ _ => rfl⟩⟩
    simp only [List.forall_mem_cons]
    exact ⟨.other (by decide) fun _ _ => rfl, .other (by decide) fun _ _ => rfl,
      .other (by decide) fun _ _ => rfl,
      .own fun _ _ _ h => Decoder.writesChoice_of_choice (by decide) h, nofun⟩
  have hwritten := by
    refine LogFormat.asWritten_of_fields format rfl (fun _ _ => rfl) ?_ h
    simp only [List.forall_mem_cons]
    exact ⟨⟨by decide, Field.keeps_optional fun _ _ => rfl⟩,
      ⟨by decide, Field.keeps_optional fun _ _ => rfl⟩,
      ⟨by decide, Field.keeps_optional fun _ _ => rfl⟩,
      ⟨by decide, Field.keeps_optional fun _ _ => rfl⟩, nofun⟩
  -- A table starts from the presets themselves, so it makes no difference whether there is one.
  have hpreset : (if table.isSome then schema.initial else {}) = ({} : FileLog) := ite_self _
  rw [hpreset] at hwritten
  exact ⟨henabled.isSet_table h, hdir.isSet_table h, hname.isSet_table h, hrotation.isSet_table h,
    hwritten⟩

end FileLog

namespace ConsoleLog

/-- The log on standard output is what is written in its table, or else preset. -/
structure AsWritten (table : Option Value) (preset x : ConsoleLog) : Prop where
  enabled : IsSet Value.WritesBool preset.enabled x.enabled
    (table.bind (schema.written? "enabled"))
  format : LogFormat.AsWritten (fun name => table.bind (schema.written? name))
    preset.format x.format

/-- So is a log on standard output, but what is preset is not the same with a table as without. -/
theorem asWritten_of_decode {table : Option Value} {x : ConsoleLog}
    (h : IsSet (fun v x => schema.decode .toml v = .ok x) {} x table) :
    AsWritten table (if table.isSome then schema.initial else {}) x := by
  have henabled : schema.Sets "enabled" .toml Value.WritesBool enabled := by
    refine ⟨by decide, List.forall_mem_cons.mpr
      ⟨.own fun _ _ _ h => Decoder.writesBool_of_bool h, ?_⟩⟩
    exact LogFormat.serves_of_not_mem (by decide) fun _ _ => rfl
  have hwritten := by
    refine LogFormat.asWritten_of_fields format (List.singleton_append).symm (fun _ _ => rfl) ?_ h
    rw [List.forall_mem_singleton]
    exact ⟨by decide, Field.keeps_optional fun _ _ => rfl⟩
  exact ⟨henabled.isSet_nested h, hwritten⟩

end ConsoleLog

/-! ### The policy -/

namespace Policy

/-- The policy is what is written in its table, or else preset. -/
structure AsWritten (table : Option Value) (x : Policy) : Prop where
  interval : IsSet Value.WritesMillis ({} : Policy).interval x.interval
    (table.bind (schema.written? "interval-ms"))
  timeout : IsSet Value.WritesMillis ({} : Policy).timeout x.timeout
    (table.bind (schema.written? "timeout-ms"))

/-- A policy that is read is what its table says. -/
theorem asWritten_of_decode {table : Option Value} {x : Policy}
    (h : IsSet (fun v x => schema.decode .toml v = .ok x) {} x table) : AsWritten table x := by
  have hinterval : schema.Sets "interval-ms" .toml Value.WritesMillis interval := by
    refine ⟨by decide, ?_⟩
    simp only [schema, List.forall_mem_cons]
    exact ⟨.own fun _ _ _ h => Decoder.writesMillis_of_uint64 h, .other (by decide) fun _ _ => rfl,
      nofun⟩
  have htimeout : schema.Sets "timeout-ms" .toml Value.WritesMillis timeout := by
    refine ⟨by decide, ?_⟩
    simp only [schema, List.forall_mem_cons]
    exact ⟨.other (by decide) fun _ _ => rfl, .own fun _ _ _ h => Decoder.writesMillis_of_uint64 h,
      nofun⟩
  exact ⟨hinterval.isSet_table h, htimeout.isSet_table h⟩

end Policy

/-! ### The configuration -/

namespace Config

/-- What is written for the log file. -/
def fileTable (v : Value) : Option Value :=
  (schema.written? "logging" v).bind (Logging.schema.written? "file")

/-- What is written for standard output. -/
def consoleTable (v : Value) : Option Value :=
  (schema.written? "logging" v).bind (Logging.schema.written? "stdout")

/-- Every setting is what the document says of it, or else preset; for the log on standard output
the presets are given. -/
structure AsWritten (v : Value) (console : ConsoleLog) (c : Config) : Prop where
  file : FileLog.AsWritten (fileTable v) c.logging.file
  console : ConsoleLog.AsWritten (consoleTable v) console c.logging.console
  poll : Policy.AsWritten (schema.written? "poll" v) c.poll

/-- A configuration that is read is what its document says. -/
theorem asWritten_of_decode {v : Value} {c : Config} (h : schema.decode .toml v = .ok c) :
    c.AsWritten v (if (consoleTable v).isSome then { format := { style := .full } } else {}) := by
  -- The parts of the configuration and of its logs are records, each the setting of one field.
  have hlogging : schema.Sets "logging" .toml (fun v x => Logging.schema.decode .toml v = .ok x)
      logging := by
    refine ⟨by decide, ?_⟩
    simp only [schema, List.forall_mem_cons]
    exact ⟨.own fun _ _ _ h => h, .other (by decide) fun _ _ => rfl, nofun⟩
  have hpoll : schema.Sets "poll" .toml (fun v x => Policy.schema.decode .toml v = .ok x)
      poll := by
    refine ⟨by decide, ?_⟩
    simp only [schema, List.forall_mem_cons]
    exact ⟨.other (by decide) fun _ _ => rfl, .own fun _ _ _ h => h, nofun⟩
  have hfile : Logging.schema.Sets "file" .toml (fun v x => FileLog.schema.decode .toml v = .ok x)
      Logging.file := by
    refine ⟨by decide, ?_⟩
    simp only [Logging.schema, List.forall_mem_cons]
    exact ⟨.own fun _ _ _ h => Schema.decode_of_decodeTable h, .other (by decide) fun _ _ => rfl,
      nofun⟩
  have hconsole : Logging.schema.Sets "stdout" .toml
      (fun v x => ConsoleLog.schema.decode .toml v = .ok x) Logging.console := by
    refine ⟨by decide, ?_⟩
    simp only [Logging.schema, List.forall_mem_cons]
    exact ⟨.other (by decide) fun _ _ => rfl, .own fun _ _ _ h => Schema.decode_of_decodeTable h,
      nofun⟩
  have hlogs := hlogging.isSet_decode h
  exact ⟨FileLog.asWritten_of_decode (hfile.isSet_table hlogs),
    ConsoleLog.asWritten_of_decode (hconsole.isSet_table hlogs),
    Policy.asWritten_of_decode (hpoll.isSet_decode h)⟩

/-- The document has a table for standard output that names no style. -/
def LeavesStyle (v : Value) : Prop :=
  ∃ table, consoleTable v = some table ∧ ConsoleLog.schema.written? "style" table = none

/-- Every setting that is left out has its default, unless it is the style of standard output and
the table where it is left out is there. -/
theorem asWritten_default_iff {v : Value} {c : Config} (h : schema.decode .toml v = .ok c) :
    c.AsWritten v {} ↔ ¬LeavesStyle v := by
  obtain ⟨hfile, hconsole, hpoll⟩ := asWritten_of_decode h
  constructor
  · -- A style that is left out would be both compact and full.
    rintro hdefault ⟨table, htable, hstyle⟩
    have hcompact := hdefault.console.format.style
    have hfull := hconsole.format.style
    simp only [htable, Option.bind_some, hstyle, Option.isSome_some, if_true] at hcompact hfull
    exact absurd (hcompact.symm.trans hfull) (by decide)
  · intro hstyle
    refine ⟨hfile, ?_, hpoll⟩
    cases htable : consoleTable v with
    | none =>
        rw [htable] at hconsole
        exact hconsole
    | some table =>
        rw [htable] at hconsole
        obtain ⟨henabled, hwritten, hcolors, hthread, hsource⟩ := hconsole
        refine ⟨henabled, ?_, hcolors, hthread, hsource⟩
        -- What is preset makes no difference to a style that is written.
        cases hw : ConsoleLog.schema.written? "style" table with
        | none => exact absurd ⟨table, htable, hw⟩ hstyle
        | some w =>
            simp only [Option.bind_some, hw] at hwritten ⊢
            exact hwritten

/-- **The settings of a configuration file.**  In every text that is a configuration, each setting
that is mentioned has the written value, and each that is not has a preset one.  That is the
default, for all settings but one: a table for standard output that names no style lays lines out
in full, and the default is the compact layout. -/
theorem settings_of_load {text : String} {c : Config}
    (h : Toml.load schema.decode text = .ok c) :
    ∃ v, Toml.parse text = .ok v ∧
      c.AsWritten v (if (consoleTable v).isSome then { format := { style := .full } } else {}) ∧
      (c.AsWritten v {} ↔ ¬LeavesStyle v) := by
  obtain ⟨v, hv, hc⟩ := bind_eq_ok_iff.mp h
  rw [mapError_eq_ok_iff] at hv hc
  exact ⟨v, hv, asWritten_of_decode hc, asWritten_default_iff hc⟩

/-- A file that turns the log file on changes nothing else. -/
theorem settings_of_load_enabled :
    ∃ v, Toml.parse "[logging.file]\nenabled = true" = .ok v ∧
      AsWritten v {} { logging := { file := { enabled := true } } } := by
  have hparse : Toml.parse "[logging.file]\nenabled = true"
      = .ok (.object [("logging", .object [("file", .object [("enabled", .bool true)])])]) := by
    cbv
  have hload : Toml.load schema.decode "[logging.file]\nenabled = true"
      = .ok { logging := { file := { enabled := true } } } := by
    decide +kernel
  obtain ⟨v, hv, -, hdefault⟩ := settings_of_load hload
  obtain rfl := Except.ok.inj (hparse.symm.trans hv)
  refine ⟨_, hparse, hdefault.mpr ?_⟩
  rintro ⟨_, htable, -⟩
  cases htable

/-- With an empty table for standard output, lines are laid out in full although nothing says so. -/
theorem not_forall_asWritten_default :
    ¬∀ text c, Toml.load schema.decode text = .ok c →
      ∃ v, Toml.parse text = .ok v ∧ c.AsWritten v {} := by
  intro h
  have hload : Toml.load schema.decode "[logging.stdout]"
      = .ok { logging := { console := { format := { style := .full } } } } := by
    decide +kernel
  have hparse : Toml.parse "[logging.stdout]"
      = .ok (.object [("logging", .object [("stdout", .object [])])]) := by
    cbv
  obtain ⟨v, hv, hdefault⟩ := h _ _ hload
  obtain rfl := Except.ok.inj (hparse.symm.trans hv)
  have hstyle : LogStyle.full = .compact := hdefault.console.format.style
  exact absurd hstyle (by decide)

end Config

end Convergence
