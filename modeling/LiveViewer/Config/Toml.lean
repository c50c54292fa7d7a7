import LiveViewer.Config
import LiveViewer.Toml.Decode

/-!
# Viewer configuration in TOML

A configuration file is a TOML document whose top-level keys are the settings, under the same
snake-case names as in JSON; keys that name no setting are skipped, and settings left out keep
their defaults. ICE servers are written as an array of tables (`[[ice_servers]]`) or an array
of inline tables; each needs its `urls`. The transport is written by its configuration name or
short label.
-/

namespace LiveViewer

open Toml Toml.Decoder

/-- Reads a transport kind from its configuration name or short label. -/
def TransportKind.ofToml : Decoder TransportKind :=
  unitVariant TransportKind.configSpellings

/-- Reads an ICE server entry. -/
def IceServer.ofToml : Decoder IceServer :=
  record "struct IceServerConfig"
    [{ name := "urls", read := fun s v => do return { s with urls := ← (seq string).run v },
       required := true },
     { name := "username",
       read := fun s v => do return { s with username := ← (option string).run v } },
     { name := "credential",
       read := fun s v => do return { s with credential := ← (option string).run v } }]
    { urls := [] }

/-- A setting read with `d` and stored by `set`. -/
def ViewerConfig.tomlSetting {α : Type} (name : String) (d : Decoder α)
    (set : ViewerConfig → α → ViewerConfig) : Member ViewerConfig :=
  { name, read := fun c v => do return set c (← d.run v) }

/-- Reads a configuration from the root table of a document. -/
def ViewerConfig.ofToml : Decoder ViewerConfig :=
  record "struct ViewerConfig"
    [ViewerConfig.tomlSetting "stream_key" string fun c x => { c with streamKey := x },
     ViewerConfig.tomlSetting "server_endpoint" string fun c x => { c with serverEndpoint := x },
     ViewerConfig.tomlSetting "transport" TransportKind.ofToml fun c x => { c with transport := x },
     ViewerConfig.tomlSetting "ice_servers" (seq IceServer.ofToml) fun c x =>
       { c with iceServers := x },
     ViewerConfig.tomlSetting "reconnect_delay_ms" (unsigned "u64") fun c x =>
       { c with reconnectDelayMs := x },
     ViewerConfig.tomlSetting "stats_interval_ms" (unsigned "u64") fun c x =>
       { c with statsIntervalMs := x },
     ViewerConfig.tomlSetting "viewer_count_interval_ms" (unsigned "u64") fun c x =>
       { c with viewerCountIntervalMs := x },
     ViewerConfig.tomlSetting "log_capacity" (unsigned "usize") fun c x =>
       { c with logCapacity := x },
     ViewerConfig.tomlSetting "http_timeout_ms" (unsigned "u64") fun c x =>
       { c with httpTimeoutMs := x }]
    {}

/-- Reads a configuration from TOML text. -/
def ViewerConfig.readToml (text : String) : Except TomlError ViewerConfig := do
  ViewerConfig.ofToml.run (← parseDocument text)

end LiveViewer
