import ScionEcho.Export.Exporter
import ScionEcho.Proofs.Numeral.Range

/-!
# Failures of exports

What an exporter does with the failures of its client. The client is made to keep a list of what it
is asked to do and of what is logged, which changes nothing else; whichever of these calls fail, it
can be told from the list what an export yields.

What a single request can lead to is listed once, case by case (`Opens`, `Exports`, `Closes` and
`Performs`); what an exporter holds after any requests follows by induction over them.
-/

namespace ScionEcho

variable {σ : Type}

/-- What a client is asked to do with what it yields, or a record that is logged. -/
inductive ClientCall
  | connect (url token organization : String) (outcome : Except ClientError Unit)
  | writeApi (outcome : Except ClientError Unit)
  | write (bucket line : String) (outcome : Except ClientError Unit)
  | close (outcome : Except ClientError Unit)
  | log (record : LogRecord)
  deriving DecidableEq

/-- Whether a point was written. -/
def ClientCall.isWritten : ClientCall → Bool
  | .write _ _ (.ok ()) => true
  | _ => false

/-- The client, which also keeps a list of the calls. -/
def InfluxClient.watched (k : InfluxClient (StateM σ)) :
    InfluxClient (StateM (σ × List ClientCall)) where
  connect url token organization :=
    recording (.connect url token organization) (k.connect url token organization)
  writeApi := recording .writeApi k.writeApi
  write bucket line := recording (.write bucket line) (k.write bucket line)
  close := recording .close k.close
  log record := fun (st, calls) => ((), ((k.log record).run st).2, calls ++ [.log record])

/-- A line that tells a result between two endpoints. -/
def Measurement.Tells (m : Measurement) (src dst : Endpoint) (line : String) : Prop :=
  ∃ spread rtt latency, m.summary = .ok spread ∧ m.averageRttMs = .ok rtt ∧
    m.averageLatencyMs = .ok latency ∧
    line = (Exporter.point m spread rtt latency src dst).line

lemma Measurement.Tells.not_unspread {m : Measurement} {src dst : Endpoint} {line : String}
    (h : m.Tells src dst line) (cause : NumberError) : ¬ m.Unspread cause := by
  obtain ⟨spread, _, _, hspread, -⟩ := h
  rw [← summary_eq_error_iff, hspread]
  exact nofun

namespace Exporter

/-- What is asked of an exporter. -/
inductive Request
  | write (result : Measurement) (src dst : Endpoint)
  | close

/-- What a request ends with. -/
inductive Reply
  | written (outcome : Except NumberError Bool)
  | closed (outcome : Except ClientError Unit)

section

variable {m : Type → Type} [Monad m]

/-- Does what is asked. A client that fails to close leaves the exporter as it was. -/
def perform (k : InfluxClient m) (e : Exporter) : Request → m (Reply × Exporter)
  | .write result src dst => do return (.written (← (exportResult k e result src dst).run), e)
  | .close => do
    match ← (close k e).run with
    | .ok e' => return (.closed (.ok ()), e')
    | .error cause => return (.closed (.error cause), e)

/-- Does all that is asked, whatever fails. -/
def performAll (k : InfluxClient m) (e : Exporter) : List Request → m (List Reply × Exporter)
  | [] => return ([], e)
  | request :: requests => do
    let (reply, e') ← perform k e request
    let (replies, last) ← performAll k e' requests
    return (reply :: replies, last)

/-- Opens an exporter and does all that is asked of it. -/
def lifetime (k : InfluxClient m) (config : ExportSettings) (requests : List Request) :
    m (List Reply × Exporter) := do
  performAll k (← «open» k config) requests

end

/-- There is a way to write, and the client has not been closed. -/
def Writable (calls : List ClientCall) : Prop :=
  .writeApi (.ok ()) ∈ calls ∧ .close (.ok ()) ∉ calls

/-- An exporter after some calls. It holds a client and a way to write, or neither. -/
structure Holds (config : ExportSettings) (e : Exporter) (calls : List ClientCall) : Prop where
  config_eq : e.config = config
  hasClient_eq : e.hasClient = e.hasWriter
  hasWriter_iff : e.hasWriter = true ↔ Writable calls

/-- What is logged of a point that cannot be written. -/
def refusal (cause : ClientError) : LogRecord :=
  ⟨loggerName, .error, s!"Failed to send data to InfluxDB: {cause.text}"⟩

/-- What an export yields, and what it is seen to do, if there is a way to write and if there is
not. -/
inductive Exports (config : ExportSettings) (result : Measurement) (src dst : Endpoint) :
    Bool → Except NumberError Bool → List ClientCall → Prop
  | unconnected : Exports config result src dst false (.ok false) []
  | unspread {cause : NumberError} (hunspread : result.Unspread cause) :
      Exports config result src dst true (.error cause) []
  | written {line : String} (hline : result.Tells src dst line) :
      Exports config result src dst true (.ok true) [.write config.bucket line (.ok ())]
  | refused {line : String} {cause : ClientError} (hline : result.Tells src dst line) :
      Exports config result src dst true (.ok false)
        [.write config.bucket line (.error cause), .log (refusal cause)]

/-- What is logged when a way to write is there, and when there is none. -/
def established : LogRecord := ⟨loggerName, .info, "InfluxDB connection established"⟩
def unconnected (cause : ClientError) : LogRecord :=
  ⟨loggerName, .error, s!"Failed to connect to InfluxDB: {cause.text}"⟩

/-- How a client is made and asked for a way to write. -/
inductive Connects (config : ExportSettings) : Except ClientError Unit → List ClientCall → Prop
  | unmade (cause : ClientError) :
      Connects config (.error cause)
        [.connect config.url config.token config.organization (.error cause)]
  | made (outcome : Except ClientError Unit) :
      Connects config outcome
        [.connect config.url config.token config.organization (.ok ()), .writeApi outcome]

/-- The exporter that is opened, and what is seen of it. A client that gives no way to write is not
held. -/
inductive Opens (config : ExportSettings) : Exporter → List ClientCall → Prop
  | disabled (hdisabled : config.enabled = false) : Opens config ⟨config, false, false⟩ []
  | connected {calls : List ClientCall} (henabled : config.enabled = true)
      (hconnects : Connects config (.ok ()) calls) :
      Opens config ⟨config, true, true⟩ (calls ++ [.log established])
  | unconnected {calls : List ClientCall} {cause : ClientError} (henabled : config.enabled = true)
      (hconnects : Connects config (.error cause) calls) :
      Opens config ⟨config, false, false⟩ (calls ++ [.log (unconnected cause)])

/-- What closing yields. A client that fails to close is still held. -/
inductive Closes (e : Exporter) : Except ClientError Exporter → List ClientCall → Prop
  | unheld (hunheld : e.hasClient = false) : Closes e (.ok e) []
  | closed (hheld : e.hasClient = true) :
      Closes e (.ok { e with hasClient := false, hasWriter := false }) [.close (.ok ())]
  | failed (hheld : e.hasClient = true) (cause : ClientError) :
      Closes e (.error cause) [.close (.error cause)]

/-- What a request ends with, the exporter after it, and what is seen of it. -/
inductive Performs (e : Exporter) : Request → Reply → Exporter → List ClientCall → Prop
  | write {result : Measurement} {src dst : Endpoint} {outcome : Except NumberError Bool}
      {made : List ClientCall}
      (hexports : Exports e.config result src dst e.hasWriter outcome made) :
      Performs e (.write result src dst) (.written outcome) e made
  | close {e' : Exporter} {made : List ClientCall} (hcloses : Closes e (.ok e') made) :
      Performs e .close (.closed (.ok ())) e' made
  | unclosed {cause : ClientError} {made : List ClientCall}
      (hcloses : Closes e (.error cause) made) :
      Performs e .close (.closed (.error cause)) e made

/-- The same for one request after the other. -/
inductive PerformsAll : Exporter → List Request → List Reply → Exporter → List ClientCall → Prop
  | nil (e : Exporter) : PerformsAll e [] [] e []
  | cons {e e₁ e' : Exporter} {request : Request} {requests : List Request} {reply : Reply}
      {replies : List Reply} {made later : List ClientCall}
      (hfirst : Performs e request reply e₁ made)
      (hrest : PerformsAll e₁ requests replies e' later) :
      PerformsAll e (request :: requests) (reply :: replies) e' (made ++ later)

variable {k : InfluxClient (StateM σ)} {config : ExportSettings} {e e' : Exporter}
  {calls made : List ClientCall} {result : Measurement} {src dst : Endpoint}

/-! ### One export -/

lemma execute_reportFailure (k : InfluxClient (StateM σ)) (cause : ClientError) (st : σ)
    (calls : List ClientCall) :
    execute (ExceptT.lift (reportFailure k.watched cause.text) :
        ExceptT NumberError (StateM (σ × List ClientCall)) _) (st, calls) =
      (.ok false, ((k.log (refusal cause)).run st).2, calls ++ [.log (refusal cause)]) := rfl

lemma exists_exports (k : InfluxClient (StateM σ)) (e : Exporter) (result : Measurement)
    (src dst : Endpoint) (st : σ) (calls : List ClientCall) :
    ∃ outcome st' made, execute (exportResult k e result src dst) st = (outcome, st') ∧
      execute (exportResult k.watched e result src dst) (st, calls) =
        (outcome, st', calls ++ made) ∧
      Exports e.config result src dst e.hasWriter outcome made := by
  unfold exportResult
  cases hwriter : e.hasWriter with
  | false => exact ⟨_, st, [], rfl, by rw [List.append_nil]; rfl, .unconnected⟩
  | true =>
    rw [if_pos rfl, if_pos rfl]
    cases hspread : result.summary with
    | error cause =>
      exact ⟨_, st, [], rfl, by rw [List.append_nil]; rfl,
        .unspread (Measurement.summary_eq_error_iff.mp hspread)⟩
    | ok spread =>
      -- A mean is there whenever a spread is, so that only the client is left to fail.
      obtain ⟨ns, hns⟩ := Measurement.exists_averageRttNs_of_summary hspread
      have hrtt := Measurement.averageRttMs_of_ns hns
      have hlatency := Measurement.averageLatencyMs_of_ns hns
      rw [hrtt, hlatency]
      dsimp only
      have hline : result.Tells src dst
          (point result spread (ns / nsPerMs) (ns / 2 / nsPerMs) src dst).line :=
        ⟨_, _, _, hspread, hrtt, hlatency, rfl⟩
      generalize (point result spread (ns / nsPerMs) (ns / 2 / nsPerMs) src dst).line = line at *
      rcases hwrite : execute (k.write e.config.bucket line) st with ⟨r, st'⟩
      have hwritten : execute (ExceptT.lift (k.write e.config.bucket line).run :
          ExceptT NumberError (StateM σ) _) st = (.ok r, st') := by
        rw [execute_lift_run, hwrite]
      have hwatched : execute (ExceptT.lift (k.watched.write e.config.bucket line).run :
          ExceptT NumberError (StateM (σ × List ClientCall)) _) (st, calls) =
            (.ok r, st', calls ++ [.write e.config.bucket line r]) := by
        rw [execute_lift_run]
        exact congrArg (fun ended => (Except.ok ended.1, ended.2)) (execute_recording hwrite calls)
      rw [execute_bind_of_ok hwritten, execute_bind_of_ok hwatched]
      cases r with
      | ok value => exact ⟨_, _, _, rfl, rfl, .written hline⟩
      | error cause =>
        have hreport := execute_reportFailure k cause st'
          (calls ++ [.write e.config.bucket line (.error cause)])
        rw [List.append_assoc] at hreport
        exact ⟨_, _, _, rfl, hreport, .refused hline⟩

/-! ### Opening, closing and requests in a row -/

lemma exists_connects (k : InfluxClient (StateM σ)) (config : ExportSettings) (st : σ) :
    ∃ outcome st' calls, execute (connect k config) st = (outcome, st') ∧
      execute (connect k.watched config) (st, []) = (outcome, st', calls) ∧
      Connects config outcome calls := by
  rcases hconnect : execute (k.connect config.url config.token config.organization) st with
    ⟨cause | ⟨⟩, st₁⟩
  · exact ⟨_, _, _, execute_bind_of_error hconnect,
      execute_bind_of_error (execute_recording hconnect []), .unmade cause⟩
  · rcases hwriter : execute k.writeApi st₁ with ⟨r, st₂⟩
    exact ⟨r, _, _, (execute_bind_of_ok hconnect).trans hwriter,
      (execute_bind_of_ok (execute_recording hconnect [])).trans (execute_recording hwriter _),
      .made r⟩

lemma exists_opens (k : InfluxClient (StateM σ)) (config : ExportSettings) (st : σ) :
    ∃ e st' calls, («open» k config).run st = (e, st') ∧
      («open» k.watched config).run (st, []) = (e, st', calls) ∧ Opens config e calls := by
  unfold «open»
  cases henabled : config.enabled with
  | false => exact ⟨⟨config, false, false⟩, st, [], rfl, rfl, .disabled henabled⟩
  | true =>
    rw [if_pos rfl, if_pos rfl]
    obtain ⟨outcome, st₁, calls, hconnect, hwatched, hconnects⟩ := exists_connects k config st
    rw [run_bind_of_eq hconnect, run_bind_of_eq hwatched]
    cases outcome with
    | ok value => exact ⟨_, _, _, rfl, rfl, .connected henabled hconnects⟩
    | error cause => exact ⟨_, _, _, rfl, rfl, .unconnected henabled hconnects⟩

lemma exists_closes (k : InfluxClient (StateM σ)) (e : Exporter) (st : σ)
    (calls : List ClientCall) :
    ∃ outcome st' made, execute (close k e) st = (outcome, st') ∧
      execute (close k.watched e) (st, calls) = (outcome, st', calls ++ made) ∧
      Closes e outcome made := by
  unfold close
  cases hclient : e.hasClient with
  | false => exact ⟨.ok e, st, [], rfl, by rw [List.append_nil]; rfl, .unheld hclient⟩
  | true =>
    rw [if_pos rfl, if_pos rfl]
    rcases hclose : execute k.close st with ⟨cause | ⟨⟩, st'⟩
    · exact ⟨.error cause, st', _, execute_bind_of_error hclose,
        execute_bind_of_error (execute_recording hclose calls), .failed hclient cause⟩
    · have hwatched : execute k.watched.close (st, calls) =
          (.ok (), st', calls ++ [.close (.ok ())]) := execute_recording hclose calls
      exact ⟨_, st', _, execute_bind_of_ok hclose, execute_bind_of_ok hwatched, .closed hclient⟩

lemma exists_performs (k : InfluxClient (StateM σ)) (e : Exporter) (request : Request) (st : σ)
    (calls : List ClientCall) :
    ∃ reply e' st' made, (perform k e request).run st = ((reply, e'), st') ∧
      (perform k.watched e request).run (st, calls) = ((reply, e'), st', calls ++ made) ∧
      Performs e request reply e' made := by
  cases request with
  | write result src dst =>
    obtain ⟨outcome, st', made, hexport, hwatched, hexports⟩ :=
      exists_exports k e result src dst st calls
    exact ⟨.written outcome, e, st', made, run_bind_of_eq hexport, run_bind_of_eq hwatched,
      .write hexports⟩
  | close =>
    obtain ⟨outcome, st', made, hclose, hwatched, hcloses⟩ := exists_closes k e st calls
    cases outcome with
    | ok e' =>
      exact ⟨.closed (.ok ()), e', st', made, run_bind_of_eq hclose, run_bind_of_eq hwatched,
        .close hcloses⟩
    | error cause =>
      exact ⟨.closed (.error cause), e, st', made, run_bind_of_eq hclose, run_bind_of_eq hwatched,
        .unclosed hcloses⟩

lemma exists_performsAll (k : InfluxClient (StateM σ)) (e : Exporter) (requests : List Request)
    (st : σ) (calls : List ClientCall) :
    ∃ replies e' st' made, (performAll k e requests).run st = ((replies, e'), st') ∧
      (performAll k.watched e requests).run (st, calls) = ((replies, e'), st', calls ++ made) ∧
      PerformsAll e requests replies e' made := by
  induction requests generalizing e st calls with
  | nil => exact ⟨[], e, st, [], rfl, by rw [List.append_nil]; rfl, .nil e⟩
  | cons request requests ih =>
    obtain ⟨reply, e₁, st₁, made, hfirst, hfirst', hperforms⟩ :=
      exists_performs k e request st calls
    obtain ⟨replies, e', st', later, hrest, hrest', hall⟩ := ih e₁ st₁ (calls ++ made)
    refine ⟨reply :: replies, e', st', made ++ later, ?_, ?_, .cons hperforms hall⟩
    · rw [performAll, run_bind_of_eq hfirst]
      exact run_bind_of_eq hrest
    · rw [performAll, run_bind_of_eq hfirst', ← List.append_assoc]
      exact run_bind_of_eq hrest'

/-- A whole life: the exporter is opened, and then does what is asked. -/
lemma exists_life (k : InfluxClient (StateM σ)) (config : ExportSettings)
    (requests : List Request) (st : σ) :
    ∃ first replies e st' opening made,
      (lifetime k config requests).run st = ((replies, e), st') ∧
      (lifetime k.watched config requests).run (st, []) = ((replies, e), st', opening ++ made) ∧
      Opens config first opening ∧ PerformsAll first requests replies e made := by
  obtain ⟨first, st₁, opening, hopen, hopen', hopens⟩ := exists_opens k config st
  obtain ⟨replies, e, st', made, hall, hall', hperforms⟩ :=
    exists_performsAll k first requests st₁ opening
  exact ⟨first, replies, e, st', opening, made, (run_bind_of_eq hopen).trans hall,
    (run_bind_of_eq hopen').trans hall', hopens, hperforms⟩

/-! ### What an exporter holds -/

lemma Opens.holds (h : Opens config e calls) : Holds config e calls := by
  cases h with
  | disabled => exact ⟨rfl, rfl, by simp [Writable]⟩
  | connected _ hconnects =>
    cases hconnects
    exact ⟨rfl, rfl, by simp [Writable]⟩
  | unconnected _ hconnects => cases hconnects <;> exact ⟨rfl, rfl, by simp [Writable]⟩

/-- Calls that neither open nor close anything change nothing. -/
lemma Holds.append (h : Holds config e calls) (hopen : .writeApi (.ok ()) ∉ made)
    (hclose : .close (.ok ()) ∉ made) : Holds config e (calls ++ made) := by
  refine ⟨h.config_eq, h.hasClient_eq, h.hasWriter_iff.trans ?_⟩
  simp [Writable, hopen, hclose]

lemma Exports.holds {settings : ExportSettings} {connected : Bool}
    {outcome : Except NumberError Bool}
    (h : Exports settings result src dst connected outcome made) (hholds : Holds config e calls) :
    Holds config e (calls ++ made) := by
  cases h <;> exact hholds.append (by simp) (by simp)

lemma Performs.holds {request : Request} {reply : Reply} (h : Performs e request reply e' made)
    (hholds : Holds config e calls) : Holds config e' (calls ++ made) := by
  cases h with
  | write hexports => exact hexports.holds hholds
  | close hcloses =>
    cases hcloses with
    | unheld => exact hholds.append (by simp) (by simp)
    | closed => exact ⟨hholds.config_eq, rfl, by simp [Writable]⟩
  | unclosed hcloses =>
    cases hcloses
    exact hholds.append (by simp) (by simp)

lemma PerformsAll.holds {requests : List Request} {replies : List Reply}
    (h : PerformsAll e requests replies e' made) (hholds : Holds config e calls) :
    Holds config e' (calls ++ made) := by
  induction h generalizing calls with
  | nil => rwa [List.append_nil]
  | cons hfirst _ ih =>
    rw [← List.append_assoc]
    exact ih (hfirst.holds hholds)

lemma exists_holds_of_lifetime (k : InfluxClient (StateM σ)) (config : ExportSettings)
    (requests : List Request) (st : σ) :
    ∃ replies e st' calls, (lifetime k config requests).run st = ((replies, e), st') ∧
      (lifetime k.watched config requests).run (st, []) = ((replies, e), st', calls) ∧
      Holds config e calls := by
  obtain ⟨first, replies, e, st', opening, made, hlife, hwatched, hopens, hall⟩ :=
    exists_life k config requests st
  exact ⟨replies, e, st', _, hlife, hwatched, hall.holds hopens.holds⟩

/-! ### Exports after whatever has been asked -/

/-- Whatever has been asked of an exporter before, it writes a result exactly if it has a way to
write and its client writes one point. The failures of the client are logged and go no further.
The failures of the spread are not kept back: a result without a sample or with a sample beyond the
doubles fails, and nothing of it is seen. -/
theorem export_after_requests (k : InfluxClient (StateM σ)) (config : ExportSettings)
    (earlier : List Request) (st : σ) (result : Measurement) (src dst : Endpoint) :
    ∃ replies e st₁ calls, (lifetime k config earlier).run st = ((replies, e), st₁) ∧
      (lifetime k.watched config earlier).run (st, []) = ((replies, e), st₁, calls) ∧
      (e.connected = true ↔ Writable calls) ∧
      ∃ outcome st₂ made, execute (exportResult k e result src dst) st₁ = (outcome, st₂) ∧
        execute (exportResult k.watched e result src dst) (st₁, calls) =
          (outcome, st₂, calls ++ made) ∧
        (outcome = .ok true ↔ e.connected = true ∧ made.countP ClientCall.isWritten = 1) ∧
        (∀ cause, outcome = .error cause ↔ e.connected = true ∧ result.Unspread cause) ∧
        (∀ bucket line r, .write bucket line r ∈ made →
          bucket = config.bucket ∧ result.Tells src dst line) ∧
        (outcome = .ok false → e.connected = true → ∃ line cause,
          made = [.write config.bucket line (.error cause), .log (refusal cause)]) ∧
        (e.connected = false ∨ (∃ cause, result.Unspread cause) → made = []) := by
  obtain ⟨replies, e, st₁, calls, hlife, hwatched, hholds⟩ :=
    exists_holds_of_lifetime k config earlier st
  obtain ⟨outcome, st₂, made, hran, hran', hexports⟩ := exists_exports k e result src dst st₁ calls
  refine ⟨replies, e, st₁, calls, hlife, hwatched, hholds.hasWriter_iff, outcome, st₂, made, hran,
    hran', ?_⟩
  rw [hholds.config_eq] at hexports
  unfold connected
  generalize e.hasWriter = connected at hexports
  cases hexports with
  | unconnected => simp
  | unspread hunspread =>
    refine ⟨by simp, fun cause => ?_, by simp, by simp, by simp⟩
    rw [Except.error.injEq]
    exact ⟨fun h => ⟨rfl, h ▸ hunspread⟩, fun h => hunspread.unique h.2⟩
  | written hline =>
    have hspread := hline.not_unspread
    refine ⟨by simp [ClientCall.isWritten], by simp [hspread], ?_, by simp, by simp [hspread]⟩
    simp only [List.mem_singleton, ClientCall.write.injEq]
    rintro _ _ _ ⟨rfl, rfl, -⟩
    exact ⟨rfl, hline⟩
  | refused hline =>
    have hspread := hline.not_unspread
    refine ⟨by simp [ClientCall.isWritten], by simp [hspread], ?_, by simp, by simp [hspread]⟩
    simp only [List.mem_cons, ClientCall.write.injEq, reduceCtorEq, List.not_mem_nil, or_false]
    rintro _ _ _ ⟨rfl, rfl, -⟩
    exact ⟨rfl, hline⟩

/-! ### A client that does what it is asked -/

def willing : InfluxClient (StateM Unit) where
  connect _ _ _ := pure ()
  writeApi := pure ()
  write _ _ := pure ()
  close := pure ()
  log _ := pure ()

def openSettings : ExportSettings := { enabled := true, url := "u", bucket := "b" }

/-- Two endpoints in neighbouring autonomous systems. -/
def nearby : Endpoint := ⟨⟨1, 1⟩, .v4 #v[10, 1, 0, 1], 0, []⟩
def remote : Endpoint := ⟨⟨1, 2⟩, .v4 #v[10, 2, 0, 1], 5, []⟩

/-- A result without a sample does fail when it is exported, although nothing is wrong with the
client. So does one with a sample beyond the doubles. -/
theorem export_fails :
    ¬ (∀ (e : Exporter) (result : Measurement),
      ∃ written, (execute (exportResult willing e result nearby remote) ()).1 = .ok written) ∧
    (lifetime willing.watched openSettings [.write ⟨[], 3⟩ nearby remote]).run ((), []) =
      (([.written (.error .noMinimum)], ⟨openSettings, true, true⟩), (),
        [.connect "u" "" "" (.ok ()), .writeApi (.ok ()),
          .log ⟨loggerName, .info, "InfluxDB connection established"⟩]) ∧
    (execute (exportResult willing ⟨openSettings, true, true⟩ ⟨[2 ^ 1024], 1⟩ nearby remote) ()).1 =
      .error .tooLarge := by
  have hempty : (execute (exportResult willing ⟨openSettings, true, true⟩ ⟨[], 3⟩ nearby remote)
      ()).1 = .error .noMinimum := rfl
  refine ⟨fun hall => ?_, rfl, ?_⟩
  · obtain ⟨written, hwritten⟩ := hall ⟨openSettings, true, true⟩ ⟨[], 3⟩
    rw [hempty] at hwritten
    cases hwritten
  · have hlarge : ¬ HasDouble (2 ^ 1024) := by
      rw [HasDouble]
      decide +kernel
    have hspread : (⟨[2 ^ 1024], 1⟩ : Measurement).summary = .error .tooLarge :=
      Measurement.summary_eq_error_iff.mpr (.inr ⟨⟨_, List.mem_singleton_self _, hlarge⟩, rfl⟩)
    rw [exportResult, if_pos rfl, hspread]
    rfl

end Exporter

end ScionEcho
