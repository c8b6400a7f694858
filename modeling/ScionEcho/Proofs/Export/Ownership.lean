import ScionEcho.Proofs.Export.Failures

/-!
# The client that an exporter owns

An exporter makes one client at most. What has become of it can be told from the calls: it is held
with its way to write until it is closed, and then never closed again. One that gives no way to
write is neither held nor closed.
-/

namespace ScionEcho

/-- Whether a client was made. -/
def ClientCall.isMade : ClientCall → Bool
  | .connect _ _ _ (.ok ()) => true
  | _ => false

/-- Whether a client was closed. -/
def ClientCall.isClosed : ClientCall → Bool
  | .close (.ok ()) => true
  | _ => false

/-- Whether a client that was made gave no way to write. -/
def ClientCall.isWriterless : ClientCall → Bool
  | .writeApi (.error _) => true
  | _ => false

namespace Exporter

variable {σ : Type} {config : ExportSettings} {e e' : Exporter} {calls made : List ClientCall}

/-- The clients of an exporter after some calls. There is one at most, and each is held, closed or
without a way to write. -/
structure Owns (e : Exporter) (calls : List ClientCall) : Prop where
  made_le_one : calls.countP ClientCall.isMade ≤ 1
  made_eq : calls.countP ClientCall.isMade =
    e.hasClient.toNat + calls.countP ClientCall.isClosed + calls.countP ClientCall.isWriterless

lemma Opens.owns (h : Opens config e calls) : Owns e calls := by
  cases h with
  | disabled => exact ⟨Nat.zero_le 1, rfl⟩
  | connected _ hconnects =>
    cases hconnects with
    | made => exact ⟨Nat.le_refl 1, rfl⟩
  | unconnected _ hconnects =>
    cases hconnects with
    | unmade => exact ⟨Nat.zero_le 1, rfl⟩
    | made => exact ⟨Nat.le_refl 1, rfl⟩

/-- Calls that neither make nor close a client change nothing. -/
lemma Owns.append (h : Owns e calls) (hmade : made.countP ClientCall.isMade = 0)
    (hclosed : made.countP ClientCall.isClosed = 0)
    (hwriterless : made.countP ClientCall.isWriterless = 0) : Owns e (calls ++ made) := by
  obtain ⟨hone, heq⟩ := h
  constructor
  · rwa [List.countP_append, hmade]
  · rwa [List.countP_append, List.countP_append, List.countP_append, hmade, hclosed, hwriterless]

lemma Exports.owns {connected : Bool} {result : Measurement} {src dst : Endpoint}
    {outcome : Except NumberError Bool}
    (h : Exports config result src dst connected outcome made) (howns : Owns e calls) :
    Owns e (calls ++ made) := by
  cases h <;> exact howns.append rfl rfl rfl

/-- A client that is closed moves from the held ones to the closed ones. -/
lemma Owns.close (h : Owns e calls) (hheld : e.hasClient = true) :
    Owns { e with hasClient := false, hasWriter := false } (calls ++ [.close (.ok ())]) := by
  obtain ⟨hone, heq⟩ := h
  rw [hheld] at heq
  constructor
  · rwa [List.countP_append]
  · have hmade : [ClientCall.close (.ok ())].countP ClientCall.isMade = 0 := rfl
    have hclosed : [ClientCall.close (.ok ())].countP ClientCall.isClosed = 1 := rfl
    have hwriterless : [ClientCall.close (.ok ())].countP ClientCall.isWriterless = 0 := rfl
    rw [List.countP_append, List.countP_append, List.countP_append, hmade, hclosed, hwriterless,
      heq, Bool.toNat_true, Bool.toNat_false]
    omega

lemma Performs.owns {request : Request} {reply : Reply} (h : Performs e request reply e' made)
    (howns : Owns e calls) : Owns e' (calls ++ made) := by
  cases h with
  | write hexports => exact hexports.owns howns
  | close hcloses =>
    cases hcloses with
    | unheld => exact howns.append rfl rfl rfl
    | closed hheld => exact howns.close hheld
  | unclosed hcloses =>
    cases hcloses
    exact howns.append rfl rfl rfl

lemma PerformsAll.owns {requests : List Request} {replies : List Reply}
    (h : PerformsAll e requests replies e' made) (howns : Owns e calls) :
    Owns e' (calls ++ made) := by
  induction h generalizing calls with
  | nil => rwa [List.append_nil]
  | cons hfirst _ ih =>
    rw [← List.append_assoc]
    exact ih (hfirst.owns howns)

/-! ### Nothing is held after closing -/

lemma Performs.unheld {request : Request} {reply : Reply} (h : Performs e request reply e' made)
    (hunheld : e.hasClient = false) : e'.hasClient = false := by
  cases h with
  | write => exact hunheld
  | close hcloses =>
    cases hcloses with
    | unheld => exact hunheld
    | closed => rfl
  | unclosed => exact hunheld

/-- No client is made after the exporter was opened. -/
lemma PerformsAll.unheld {requests : List Request} {replies : List Reply}
    (h : PerformsAll e requests replies e' made) (hunheld : e.hasClient = false) :
    e'.hasClient = false := by
  induction h with
  | nil => exact hunheld
  | cons hfirst _ ih => exact ih (hfirst.unheld hunheld)

lemma Performs.unheld_of_close {reply : Reply} (h : Performs e .close reply e' made)
    (hcloses : ∀ cause, .close (.error cause) ∉ made) : e'.hasClient = false := by
  cases h with
  | close hclosed =>
    cases hclosed with
    | unheld hunheld => exact hunheld
    | closed => rfl
  | unclosed hclosed =>
    cases hclosed with
    | failed => exact absurd (List.mem_singleton_self _) (hcloses _)

/-- Nothing is held once the exporter was closed, unless its client failed to close. -/
lemma PerformsAll.unheld_of_close {requests : List Request} {replies : List Reply}
    (h : PerformsAll e requests replies e' made) (hclose : Request.close ∈ requests)
    (hcloses : ∀ cause, .close (.error cause) ∉ made) : e'.hasClient = false := by
  induction h with
  | nil => cases hclose
  | cons hfirst hrest ih =>
    rcases List.mem_cons.mp hclose with rfl | hlater
    · refine hrest.unheld (hfirst.unheld_of_close fun cause hcause => ?_)
      exact hcloses cause (List.mem_append_left _ hcause)
    · exact ih hlater fun cause hcause => hcloses cause (List.mem_append_right _ hcause)

/-! ### What becomes of a client -/

/-- Whatever is asked of an exporter and whichever calls fail, it holds a client exactly if it holds
a way to write. It makes one client at most, of which one thing is true: the exporter holds it, or
it has been closed once, or it gave no way to write. The last is never closed, since nothing holds
it. Nothing is held after the exporter was closed, where the client does not fail to close. -/
theorem client_accounted (k : InfluxClient (StateM σ)) (config : ExportSettings)
    (requests : List Request) (st : σ) :
    ∃ replies e st' calls, (lifetime k config requests).run st = ((replies, e), st') ∧
      (lifetime k.watched config requests).run (st, []) = ((replies, e), st', calls) ∧
      (e.hasClient = true ↔ e.hasWriter = true) ∧
      calls.countP ClientCall.isMade ≤ 1 ∧
      calls.countP ClientCall.isMade =
        e.hasClient.toNat + calls.countP ClientCall.isClosed +
          calls.countP ClientCall.isWriterless ∧
      (Request.close ∈ requests → (∀ cause, .close (.error cause) ∉ calls) →
        e.hasClient = false) := by
  obtain ⟨first, replies, e, st', opening, made, hlife, hwatched, hopens, hall⟩ :=
    exists_life k config requests st
  have hholds := hall.holds hopens.holds
  have howns := hall.owns hopens.owns
  refine ⟨replies, e, st', opening ++ made, hlife, hwatched, by rw [hholds.hasClient_eq],
    howns.made_le_one, howns.made_eq, fun hclose hcloses => ?_⟩
  exact hall.unheld_of_close hclose fun cause hcause =>
    hcloses cause (List.mem_append_right _ hcause)

/-- An export that fails, and an exporter that is closed twice: its client is closed once. -/
theorem client_accounted_closedTwice :
    Request.close ∈ [.write ⟨[], 3⟩ nearby remote, .close, .close] ∧
    ∃ replies e calls,
      (lifetime willing.watched openSettings
        [.write ⟨[], 3⟩ nearby remote, .close, .close]).run ((), []) = ((replies, e), (), calls) ∧
      (∀ cause, .close (.error cause) ∉ calls) ∧
      calls.countP ClientCall.isMade = 1 ∧ calls.countP ClientCall.isClosed = 1 ∧
      e.hasClient = false := by
  have hclose : Request.close ∈ [.write ⟨[], 3⟩ nearby remote, .close, .close] := by simp
  obtain ⟨replies, e, _, calls, -, hwatched, -, -, heq, hclosed⟩ :=
    client_accounted willing openSettings [.write ⟨[], 3⟩ nearby remote, .close, .close] ()
  have hcalls : calls = [.connect "u" "" "" (.ok ()), .writeApi (.ok ()), .log established,
      .close (.ok ())] := (congrArg (fun ended => ended.2.2) hwatched).symm
  have hnever : ∀ cause, .close (.error cause) ∉ calls := by simp [hcalls]
  have hunheld := hclosed hclose hnever
  have hmade : calls.countP ClientCall.isMade = 1 := by rw [hcalls]; rfl
  have hwriterless : calls.countP ClientCall.isWriterless = 0 := by rw [hcalls]; rfl
  refine ⟨hclose, replies, e, calls, hwatched, hnever, hmade, ?_, hunheld⟩
  rw [hmade, hunheld, hwriterless] at heq
  simpa using heq.symm

/-! ### A client that gives no way to write -/

def unwritable : InfluxClient (StateM Unit) := { willing with writeApi := throw ⟨"no writer"⟩ }

/-- A client that gives no way to write was made, and is neither held nor ever closed, even if the
exporter is closed and its client would close. -/
theorem client_left_open :
    (lifetime unwritable.watched openSettings [.close]).run ((), []) =
      (([.closed (.ok ())], ⟨openSettings, false, false⟩), (),
        [.connect "u" "" "" (.ok ()), .writeApi (.error ⟨"no writer"⟩),
          .log (unconnected ⟨"no writer"⟩)]) ∧
    ¬ (∀ (k : InfluxClient (StateM Unit)) (config : ExportSettings) (requests : List Request),
      (execute k.close ()).1 = .ok () →
      ∀ replies e calls,
        (lifetime k.watched config requests).run ((), []) = ((replies, e), (), calls) →
        calls.countP ClientCall.isMade =
          e.hasClient.toNat + calls.countP ClientCall.isClosed) := by
  have hrun : (lifetime unwritable.watched openSettings [.close]).run ((), []) =
      (([.closed (.ok ())], ⟨openSettings, false, false⟩), (),
        [.connect "u" "" "" (.ok ()), .writeApi (.error ⟨"no writer"⟩),
          .log (unconnected ⟨"no writer"⟩)]) := rfl
  refine ⟨hrun, fun hall => ?_⟩
  have hcount := hall unwritable openSettings [.close] rfl _ _ _ hrun
  exact absurd hcount (by decide)

end Exporter

end ScionEcho
