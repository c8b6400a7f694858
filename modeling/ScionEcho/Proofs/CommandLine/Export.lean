import ScionEcho.Proofs.CommandLine.Outcome

/-!
# What an export changes

The report of a finished measurement is printed before its result is exported, so that no database
can change it. The failures of a database are reported and go no further, with one exception: a
client that fails to close ends the measurement with its failure.
-/

namespace ScionEcho

variable {σ : Type}

namespace DatabaseScenario

variable (k : DatabaseScenario σ) (c : ExportSettings) (line : String)

/-- A client writes a line and is closed. Only the closing counts. -/
def writeAndClose : StateM σ (Except ClientError Unit) := do
  let _ ← k.write c.bucket line
  k.close

/-- What a client is asked to do with a line, if the export is enabled, and how its closing ends. A
client that obtains no way to write is not closed. -/
def exportLine : StateM σ (Except ClientError Unit) := do
  if c.enabled then
    match ← k.connect c.url c.token c.organization with
    | .error _ => return .ok ()
    | .ok () =>
      match ← k.writeApi with
      | .error _ => return .ok ()
      | .ok () => k.writeAndClose c line
  else return .ok ()

end DatabaseScenario

/-- The line that tells a result between two endpoints. -/
def Measurement.exportLine (m : Measurement) (src dst : Endpoint) : String :=
  match m.summary, m.averageRttMs, m.averageLatencyMs with
  | .ok spread, .ok rtt, .ok latency => (Exporter.point m spread rtt latency src dst).line
  | _, _, _ => ""

/-- The exit of a finished measurement, by how the closing of the client ended. -/
def Exit.ofClosing : Except ClientError Unit → Exit
  | .ok () => .status 0
  | .error cause => .fault (.client cause)

/-- The desk after what a database did, and after reports. -/
def Desk.after (d : Desk σ) (script : σ) (texts : List String) : Desk σ :=
  { d with script, stderr := d.stderr ++ texts }

/-- The client of a database, as the exporter finds it. -/
def Scenario.databaseClient (s : Scenario σ) (k : DatabaseScenario σ) (l : Logging) :
    InfluxClient (StateM (Desk σ)) :=
  (s.world k).influx (s.console.emit l)

variable {s : Scenario σ} {k : DatabaseScenario σ} {l : Logging} {c : ExportSettings}
  {d : Desk σ} {m : Measurement} {st : σ} {r : Except ClientError Unit}

lemma Desk.after_after (d : Desk σ) (script script' : σ) (texts texts' : List String) :
    (d.after script texts).after script' texts' = d.after script' (texts ++ texts') := by
  simp [after, List.append_assoc]

lemma execute_decided {ε α : Type} {x : StateM σ (Except ε α)} {r : Except ε α}
    (h : x.run d.script = (r, st)) :
    execute (ExceptT.mk (Desk.decided x)) d = (r, d.after st []) := by
  rw [Desk.after, List.append_nil]
  change ((x.run d.script).1, { d with script := (x.run d.script).2 }) = _
  rw [h]

/-! ### The exporter at a desk -/

/-- An exporter is opened. It either holds no client and nothing is left to be done, or it holds one
that is to write and to be closed. -/
lemma exists_open (s : Scenario σ) (k : DatabaseScenario σ) (l : Logging)
    (henabled : c.enabled = true) (d : Desk σ) :
    ∃ held st texts, (Exporter.open (s.databaseClient k l) c).run d =
        (⟨c, held, held⟩, d.after st texts) ∧
      ((held = false ∧ ∀ line, (k.exportLine c line).run d.script = (.ok (), st)) ∨
        (held = true ∧ ∀ line,
          (k.exportLine c line).run d.script = (k.writeAndClose c line).run st)) := by
  unfold Exporter.open DatabaseScenario.exportLine
  simp only [if_pos henabled]
  rcases hconnect : (k.connect c.url c.token c.organization).run d.script with ⟨cause | ⟨⟩, st⟩
  · have hconnected : execute (Exporter.connect (s.databaseClient k l) c) d =
        (.error cause, d.after st []) :=
      execute_bind_of_error (execute_decided hconnect)
    rw [run_bind_of_eq hconnected]
    refine ⟨false, st, _, congrArg (Prod.mk _) (d.after_after st st [] _),
      .inl ⟨rfl, fun line => ?_⟩⟩
    rw [run_bind_of_eq hconnect]
    rfl
  · have hclient (r : Except ClientError Unit) (st' : σ) (hapi : k.writeApi.run st = (r, st')) :
        execute (Exporter.connect (s.databaseClient k l) c) d = (r, d.after st' []) := by
      refine (execute_bind_of_ok (execute_decided hconnect)).trans ?_
      exact (execute_decided hapi).trans (congrArg (Prod.mk r) (d.after_after st st' [] []))
    rcases hapi : k.writeApi.run st with ⟨cause | ⟨⟩, st'⟩
    · rw [run_bind_of_eq (hclient _ _ hapi)]
      refine ⟨false, st', _, congrArg (Prod.mk _) (d.after_after st' st' [] _),
        .inl ⟨rfl, fun line => ?_⟩⟩
      rw [run_bind_of_eq hconnect]
      dsimp only
      rw [run_bind_of_eq hapi]
      rfl
    · rw [run_bind_of_eq (hclient _ _ hapi)]
      refine ⟨true, st', _, congrArg (Prod.mk _) (d.after_after st' st' [] _),
        .inr ⟨rfl, fun line => ?_⟩⟩
      rw [run_bind_of_eq hconnect]
      dsimp only
      rw [run_bind_of_eq hapi]

/-- A line is written for a result. If that fails, this is reported. -/
lemma exists_exportResult (hne : m.samples ≠ []) (helapsed : ∀ x ∈ m.samples, IsElapsed x)
    {src dst : Endpoint}
    (hwrite : (k.write c.bucket (m.exportLine src dst)).run d.script = (r, st)) :
    ∃ written texts,
      execute (Exporter.exportResult (s.databaseClient k l) ⟨c, true, true⟩ m src dst) d =
        (.ok written, d.after st texts) := by
  obtain ⟨spread, hspread⟩ := Measurement.exists_summary hne helapsed
  obtain ⟨rtt, hrtt⟩ := Measurement.exists_averageRttMs hne helapsed
  obtain ⟨latency, hlatency⟩ := Measurement.exists_averageLatencyMs hne helapsed
  rw [Measurement.exportLine, hspread, hrtt, hlatency] at hwrite
  have hwritten : execute (ExceptT.lift ((s.databaseClient k l).write c.bucket
      (Exporter.point m spread rtt latency src dst).line).run :
        ExceptT NumberError (StateM (Desk σ)) (Except ClientError Unit)) d =
          (.ok r, d.after st []) := by
    rw [execute_lift_run]
    exact congrArg (fun ended => (Except.ok ended.1, ended.2)) (execute_decided hwrite)
  unfold Exporter.exportResult
  rw [if_pos rfl, hspread, hrtt, hlatency]
  dsimp only
  rw [execute_bind_of_ok hwritten]
  cases r with
  | error cause => exact ⟨false, _, congrArg (Prod.mk _) (d.after_after st st [] _)⟩
  | ok value => exact ⟨true, [], rfl⟩

/-- Closing an exporter that holds a client closes the client. -/
lemma execute_close (hclose : k.close.run d.script = (r, st)) :
    execute (Exporter.close (s.databaseClient k l) ⟨c, true, true⟩) d =
      (r.map fun _ => ⟨c, false, false⟩, d.after st []) := by
  have hdecided : execute (s.databaseClient k l).close d = (r, d.after st []) :=
    execute_decided hclose
  unfold Exporter.close
  rw [if_pos rfl]
  cases r with
  | error cause => exact execute_bind_of_error hdecided
  | ok value => exact execute_bind_of_ok hdecided

/-- An export ends as the closing of the client ends. -/
lemma exists_export (s : Scenario σ) (l : Logging) (henabled : c.enabled = true)
    (hne : m.samples ≠ []) (helapsed : ∀ x ∈ m.samples, IsElapsed x) {src dst : Endpoint}
    (hexport : (k.exportLine c (m.exportLine src dst)).run d.script = (r, st)) :
    ∃ texts, execute (ClientCommand.exportResult (s.world k) l c m src dst) d =
      (r.mapError .client, d.after st texts) := by
  obtain ⟨held, st₁, texts, hopen, hline⟩ := exists_open s k l henabled d
  have hopened : execute (ExceptT.lift (Exporter.open (s.databaseClient k l) c) :
      ExceptT Fault (StateM (Desk σ)) Exporter) d = (.ok ⟨c, held, held⟩, d.after st₁ texts) := by
    rw [execute_lift, hopen]
  have hclient : (s.world k).influx ((s.world k).console.emit l) = s.databaseClient k l := rfl
  unfold ClientCommand.exportResult
  dsimp only
  rw [hclient, execute_bind_of_ok hopened]
  rcases hline with ⟨rfl, hnothing⟩ | ⟨rfl, hwriting⟩
  · obtain ⟨rfl, rfl⟩ := Prod.mk.inj (hexport.symm.trans (hnothing _))
    exact ⟨texts, rfl⟩
  · rcases hwrite : (k.write c.bucket (m.exportLine src dst)).run st₁ with ⟨r₂, st₂⟩
    have hclose : k.close.run st₂ = (r, st) := by
      rw [hwriting, DatabaseScenario.writeAndClose, run_bind_of_eq hwrite] at hexport
      exact hexport
    obtain ⟨written, reports, hexported⟩ :=
      exists_exportResult (s := s) (l := l) (d := d.after st₁ texts) hne helapsed hwrite
    have htried : execute (ExceptT.lift (Exporter.exportResult (s.databaseClient k l)
        ⟨c, true, true⟩ m src dst).run : ExceptT Fault (StateM (Desk σ)) _) (d.after st₁ texts) =
          (.ok (.ok written), (d.after st₁ texts).after st₂ reports) := by
      rw [execute_lift_run, hexported]
    have hclosed : execute (ExceptT.adapt Fault.client
        (Exporter.close (s.databaseClient k l) ⟨c, true, true⟩))
          ((d.after st₁ texts).after st₂ reports) =
        ((r.map fun _ => (⟨c, false, false⟩ : Exporter)).mapError .client,
          d.after st (texts ++ reports)) := by
      have hran := execute_close (s := s) (l := l) (c := c)
        (d := (d.after st₁ texts).after st₂ reports) hclose
      rw [execute_adapt, hran, Desk.after_after, Desk.after_after, List.append_nil]
    refine ⟨texts ++ reports, ?_⟩
    rw [execute_bind_of_ok htried]
    cases r with
    | error cause => exact execute_bind_of_error hclosed
    | ok value => exact execute_bind_of_ok hclosed

/-! ### The end of a finished measurement -/

/-- A configuration that says the same but enables no export. -/
def Config.withoutExport (c : Config) : Config :=
  { c with influx := { c.influx with enabled := false } }

section

variable {o : ClientOptions} {source destination : String} {script : σ}
  {handlers : Int → Disposition} {config : Config} {src dst : Endpoint} {d₀ d₁ : Desk σ}

/-- The phases go on as they did when a configuration without an export is found instead. -/
lemma Scenario.Phases.withoutExport {readConfig : String → StateM σ FileContent}
    (hload : s.Loads o d (.ok config) d₀)
    (hphases : s.Phases o source destination d (.ok (config, src, dst, m)) d₁)
    (hfound : { s with readConfig }.Loads o d (.ok config.withoutExport) d₀) :
    { s with readConfig }.Phases o source destination d
      (.ok (config.withoutExport, src, dst, m)) d₁ := by
  cases hphases with
  | finished hprepare hconnect hrun hclose =>
    obtain ⟨hload', hlog, hsource, hdestination, hreport⟩ := hprepare
    obtain ⟨-, rfl⟩ := Prod.mk.inj (hload.symm.trans hload')
    exact .finished (.mk hfound hlog hsource hdestination hreport) hconnect hrun hclose

/-- A finished measurement ends as the closing of the client of its database does. By then its
report is printed. -/
lemma exists_end_of_finished (k : DatabaseScenario σ) (hgives : o.Gives source destination)
    (hphases : s.Phases o source destination (Desk.fresh script handlers).watchful
      (.ok (config, src, dst, m)) d₁) {report : String}
    (hreport : m.report source destination = .ok report) :
    ∃ d', (ClientCommand.run (s.world k) o).run (Desk.fresh script handlers) =
        (.ofClosing ((k.exportLine config.influx (m.exportLine src dst)).run d₁.script).1, d') ∧
      d'.footprint.stdout = report ++ "\n" := by
  obtain ⟨hstdout, -⟩ := hphases.tidy
  obtain ⟨hne, helapsed⟩ := hphases.sound
  obtain ⟨spread, hspread⟩ := Measurement.exists_summary hne helapsed
  obtain ⟨l, hrun⟩ := hphases.exists_run k
  obtain ⟨texts, hpresent⟩ := execute_present s k l config src dst hreport hspread d₁.restored
  have hend := run_of_phases_ok hgives hrun
  rw [hpresent] at hend
  have hprinted : d₁.footprint.stdout ++ (report ++ "\n") = report ++ "\n" := by
    rw [hstdout, String.empty_append]
  rcases hexport : (k.exportLine config.influx (m.exportLine src dst)).run d₁.script with ⟨r, st⟩
  cases henabled : config.influx.enabled with
  | false =>
    rw [henabled] at hend
    unfold DatabaseScenario.exportLine at hexport
    simp only [henabled] at hexport
    obtain ⟨rfl, rfl⟩ := Prod.mk.inj hexport
    exact ⟨_, hend, hprinted⟩
  | true =>
    rw [if_pos henabled] at hend
    obtain ⟨reports, hexported⟩ := exists_export s l henabled hne helapsed
      (d := { d₁.restored with
        footprint := d₁.restored.footprint.print (report ++ "\n")
        stderr := d₁.restored.stderr ++ texts }) hexport
    rw [hexported] at hend
    cases r with
    | error cause => exact ⟨_, hend, hprinted⟩
    | ok value => exact ⟨_, hend, hprinted⟩

/-- A finished measurement prints its report, whatever the client of its database does. It exits
with status 0, as it does when there is nothing to be exported, unless that client fails to close:
then it ends with that failure. -/
theorem run_reports (hgives : o.Gives source destination)
    (hload : s.Loads o (Desk.fresh script handlers).watchful (.ok config) d₀)
    (hphases : s.Phases o source destination (Desk.fresh script handlers).watchful
      (.ok (config, src, dst, m)) d₁) :
    ∃ report, m.report source destination = .ok report ∧
      (∀ k : DatabaseScenario σ, ∃ d',
        (ClientCommand.run (s.world k) o).run (Desk.fresh script handlers) =
          (.ofClosing ((k.exportLine config.influx (m.exportLine src dst)).run d₁.script).1, d') ∧
        d'.footprint.stdout = report ++ "\n") ∧
      ∀ (k : DatabaseScenario σ) (readConfig : String → StateM σ FileContent),
        { s with readConfig }.Loads o (Desk.fresh script handlers).watchful
          (.ok config.withoutExport) d₀ →
        ∃ d', (ClientCommand.run ({ s with readConfig }.world k) o).run
            (Desk.fresh script handlers) = (.status 0, d') ∧
          d'.footprint.stdout = report ++ "\n" := by
  obtain ⟨hne, helapsed⟩ := hphases.sound
  obtain ⟨report, hreport⟩ := m.exists_report hne helapsed source destination
  refine ⟨report, hreport, fun k => exists_end_of_finished k hgives hphases hreport, ?_⟩
  intro k readConfig hfound
  exact exists_end_of_finished k hgives (hphases.withoutExport hload hfound) hreport

end

/-! ### Neighbours that export what they measure -/

namespace DatabaseScenario

/-- A database that writes nothing. -/
def full : DatabaseScenario σ :=
  { willing with write := fun _ _ => pure (.error ⟨"disk full"⟩) }

/-- A database whose client fails to close. -/
def unclosable : DatabaseScenario σ := { willing with close := pure (.error ⟨"connection lost"⟩) }

end DatabaseScenario

/-- A file that says whether to export. -/
def exportFile (enabled : Bool) : Bytes :=
  (s!"[influxdb]\nenabled = {enabled}\nurl = \"u\"\nbucket = \"b\"\n").toList.map fun c =>
    UInt8.ofNat c.toNat

/-- Neighbours that find such a file. -/
def Scenario.exporting (enabled : Bool) : Scenario Unit :=
  { uniform [] (.ok neighbourReply) with readConfig := fun _ => pure (.bytes (exportFile enabled)) }

def onceFromFile : ClientOptions := { once with config := some "config.toml" }

def exportConfig (enabled : Bool) : Config :=
  { onceConfig with influx := { enabled, url := "u", bucket := "b" } }

/-- The desk once the file has been read. -/
def exportDesk : Desk Unit where
  script := ()
  footprint := (Desk.fresh () distinctHandlers).watchful.footprint.noteRead "config.toml"

lemma ofBytes_exportFile (enabled : Bool) :
    Config.ofBytes (exportFile enabled) =
      .ok { influx := { enabled, url := "u", bucket := "b" } } := by
  cases enabled <;> with_unfolding_all rfl

lemma exporting_loads (enabled : Bool) :
    (Scenario.exporting enabled).Loads onceFromFile (Desk.fresh () distinctHandlers).watchful
      (.ok (exportConfig enabled)) exportDesk := by
  have hcheck : (exportConfig enabled).check = .ok () := by
    cases enabled <;> decide +kernel
  have hload : Config.load (some "config.toml") (.bytes (exportFile enabled))
      onceFromFile.overrides = .ok (exportConfig enabled) := by
    unfold Config.load
    simp only [Config.ofFile, ofBytes_exportFile]
    exact Config.checked_eq_ok_iff.mpr ⟨hcheck, rfl⟩
  exact congrArg (·, exportDesk) hload

lemma onceFromFile_gives : onceFromFile.Gives "1-1,[127.0.0.3]" "1-2,[127.0.0.4]:30041" :=
  ⟨rfl, by decide, rfl, by decide⟩

/-- The measurement is finished. -/
lemma exporting_finished (enabled : Bool) : ∃ d',
    (Scenario.exporting enabled).Phases onceFromFile "1-1,[127.0.0.3]" "1-2,[127.0.0.4]:30041"
      (Desk.fresh () distinctHandlers).watchful
      (.ok (exportConfig enabled, neighbour, otherNeighbour, ⟨[0], 1⟩)) d' := by
  obtain ⟨hsource, hdestination⟩ := parse_neighbours
  have hprepare := Scenario.Prepares.mk (exporting_loads enabled) rfl hsource hdestination rfl
  cases enabled
  · exact ⟨_, .finished hprepare rfl rfl rfl⟩
  · exact ⟨_, .finished hprepare rfl rfl rfl⟩

/-- A database that writes nothing changes nothing of what a measurement prints and exits with. -/
theorem run_reports_full :
    ∃ report d₁ d₂,
      (ClientCommand.run ((Scenario.exporting true).world .full) onceFromFile).run
        (Desk.fresh () distinctHandlers) = (.status 0, d₁) ∧
      d₁.footprint.stdout = report ++ "\n" ∧
      (ClientCommand.run ((Scenario.exporting false).world .willing) onceFromFile).run
        (Desk.fresh () distinctHandlers) = (.status 0, d₂) ∧
      d₂.footprint.stdout = report ++ "\n" := by
  obtain ⟨d', hphases⟩ := exporting_finished true
  obtain ⟨report, -, hany, hnone⟩ := run_reports onceFromFile_gives (exporting_loads true) hphases
  obtain ⟨d₁, hfull, hprinted⟩ := hany .full
  obtain ⟨d₂, hwilling, hprinted'⟩ := hnone .willing (Scenario.exporting false).readConfig
    (exporting_loads false)
  exact ⟨report, d₁, d₂, hfull, hprinted, hwilling, hprinted'⟩

/-- The client of a database that fails to close ends a finished measurement with its failure. -/
theorem run_of_unclosable :
    (∃ d', (Scenario.exporting true).Phases onceFromFile "1-1,[127.0.0.3]" "1-2,[127.0.0.4]:30041"
      (Desk.fresh () distinctHandlers).watchful
      (.ok (exportConfig true, neighbour, otherNeighbour, ⟨[0], 1⟩)) d') ∧
    ∃ d', (ClientCommand.run ((Scenario.exporting true).world .unclosable) onceFromFile).run
      (Desk.fresh () distinctHandlers) = (.fault (.client ⟨"connection lost"⟩), d') := by
  refine ⟨exporting_finished true, ?_⟩
  obtain ⟨d', hphases⟩ := exporting_finished true
  obtain ⟨hne, helapsed⟩ := hphases.sound
  obtain ⟨report, hreport⟩ := Measurement.exists_report hne helapsed "1-1,[127.0.0.3]"
    "1-2,[127.0.0.4]:30041"
  obtain ⟨d'', hrun, -⟩ := exists_end_of_finished .unclosable onceFromFile_gives hphases hreport
  exact ⟨d'', hrun⟩

end ScionEcho
