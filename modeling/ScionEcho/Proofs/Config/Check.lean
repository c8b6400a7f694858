import Mathlib.Tactic.Lemma
import Mathlib.Tactic.SplitIfs
import ScionEcho.CommandLine.ClientCommand
import ScionEcho.Proofs.Fallible

/-!
# Configurations that were checked

What a configuration is checked for is enough for what is done with it.
-/

namespace ScionEcho.Config

lemma checked_eq_ok_iff {c c' : Config} : c.checked = .ok c' ↔ c.check = .ok () ∧ c = c' := by
  unfold checked
  cases c.check with
  | error cause => simp
  | ok value => simp

/-- A configuration that was loaded has been checked. -/
lemma check_of_load {path : Option String} {content : FileContent} {o : Overrides} {c : Config}
    {read : Toml.Reader} (h : load path content o read = .ok c) : c.check = .ok () := by
  have hbase : ∃ base : Config, (base.override o).checked = .ok c := by
    unfold load at h
    dsimp only at h
    split at h
    · exact ⟨_, h⟩
    · split_ifs at h
      · exact ⟨_, h⟩
      · obtain ⟨base, -, hchecked⟩ := bind_eq_ok_iff.mp h
        exact ⟨base, hchecked⟩
  obtain ⟨base, hchecked⟩ := hbase
  obtain ⟨hcheck, rfl⟩ := checked_eq_ok_iff.mp hchecked
  exact hcheck

/-- A configuration that passes its check gives a run settings that pass theirs. -/
lemma check_runSettings {c : Config} (h : c.check = .ok ()) :
    (ClientCommand.runSettings c).check = .ok () ∧ 1 ≤ c.probe.samples ∧
      c.probe.samples ≤ c.probe.maxAttempts ∧ c.transport.mtu ≤ c.transport.recvBuffer := by
  unfold Config.check at h
  split_ifs at h with hsamples hattempts htimeout hbuffer
  have hwait : c.probe.receiveTimeout.any Seconds.isNonpositive = false := by
    unfold ProbeSettings.receiveTimeout
    split_ifs with hpositive
    · exact Seconds.isNonpositive_of_isPositive hpositive
    · rfl
  refine ⟨?_, by omega, by omega, by omega⟩
  rw [RunSettings.check, ClientCommand.runSettings, if_neg hsamples, if_neg hattempts, hwait]
  rfl

end ScionEcho.Config
