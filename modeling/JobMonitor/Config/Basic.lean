import JobMonitor.Config.Coercion
import JobMonitor.Config.KeyPath
import JobMonitor.Files.Path
import JobMonitor.Ingest.Options
import JobMonitor.Json.Printer

set_option autoImplicit false

/-! # The configuration of the monitor -/

namespace JobMonitor

/-- The configuration of the monitor. -/
structure Config where
  /-- Where submissions are written to. -/
  channel : Path := "/tmp/joblens/job_adder.fifo"
  duplicatePolicy : DuplicatePolicy := .reject
  maxFrameBytes : UInt64 := UInt64.ofNat maxPayloadBytes
  /-- How often jobs without living processes are looked for, in milliseconds. They are not looked
      for if it is 0. -/
  sweepIntervalMs : UInt64 := 1000
  /-- Where changes are exported to. -/
  exportFile : Option Path := none
  logLevel : String := "info"
  /-- Where the log is written to instead of the standard error stream. -/
  logFile : Option Path := none
  /-- The files that the configuration was read from. -/
  sources : List Path := []
deriving DecidableEq, Repr

/-! ## Showing a configuration -/

/-- A natural of 64 bits in JSON. -/
def Json.ofUInt64 (n : UInt64) : Json :=
  .number (.integer ⟨n.toNat, by have := n.toNat_lt; omega⟩)

/-- A text in JSON, null if there is none. -/
def Json.ofText? : Option String → Json
  | some text => .string text
  | none => .null

/-- The configuration in JSON. -/
def Config.toJson (c : Config) : Json :=
  .object [
    ("collectors_config", .object [("job_adder_fifo", .string c.channel)]),
    ("duplicate_policy", .string c.duplicatePolicy.name),
    ("max_frame_bytes", .ofUInt64 c.maxFrameBytes),
    ("reaper_interval_ms", .ofUInt64 c.sweepIntervalMs),
    ("export", .object [("file", .ofText? c.exportFile)]),
    ("log", .object [("level", .string c.logLevel), ("file", .ofText? c.logFile)]),
    ("config_sources", .array (c.sources.map .string))]

/-! ## What a configuration says -/

/-- How often jobs are looked for, if they are. -/
def Config.sweepInterval? (c : Config) : Option UInt64 :=
  if c.sweepIntervalMs = 0 then none else some c.sweepIntervalMs

/-- How submissions are taken in. -/
def Config.ingestOptions (c : Config) : IngestOptions :=
  { maxFrameBytes := c.maxFrameBytes.toNat, duplicatePolicy := c.duplicatePolicy }

/-! ## From settings -/

/-- The settings that hold if nothing else is said. -/
def Config.defaults : SettingTable :=
  let c : Config := {}
  [("collectors_config", .table [("job_adder_fifo", .text c.channel)]),
    ("duplicate_policy", .text c.duplicatePolicy.name),
    ("max_frame_bytes", .integer c.maxFrameBytes.toNat),
    ("reaper_interval_ms", .integer c.sweepIntervalMs.toNat),
    ("export", .table [("file", .null)]),
    ("log", .table [("level", .text c.logLevel), ("file", .null)])]

/-- The configuration that settings amount to. What is not asked for does not matter. -/
def Config.ofSettings? (members : SettingTable) (sources : List Path) : Option Config := do
  let collectors ← (← members.lookup "collectors_config").fields? ["job_adder_fifo"]
  let exporting ← (← members.lookup "export").fields? ["file"]
  let logging ← (← members.lookup "log").fields? ["level", "file"]
  return {
    channel := ← (← collectors.lookup "job_adder_fifo").text?
    duplicatePolicy := ← (← members.lookup "duplicate_policy").policy?
    maxFrameBytes := ← (← members.lookup "max_frame_bytes").natural?
    sweepIntervalMs := ← (← members.lookup "reaper_interval_ms").natural?
    exportFile := ← exporting.optionalText? "file"
    logLevel := ← (← logging.lookup "level").text?
    logFile := ← logging.optionalText? "file"
    sources }

end JobMonitor
