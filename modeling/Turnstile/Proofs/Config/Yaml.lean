import Turnstile.Config.Document
import Turnstile.Proofs.Config.RoundTrip
import Turnstile.Proofs.Yaml.Rendering

/-!
# Configurations are read back from their YAML text

The text of a configuration has the tokens of its tree's node, and that node is read as the
configuration. What is read back is then validated, as every configuration from a text is.

## Main statements

- `Config.parse?_toYaml` — reading back before validation
- `Config.yaml_round_trip` — reading back
-/

namespace Turnstile.Config

theorem isKey_of_mem_fieldNames : ∀ name ∈ fieldNames, Yaml.IsKey name := by
  unfold Yaml.IsKey
  decide +kernel

/-- The text of a configuration is parsed as the configuration. -/
theorem parse?_toYaml (c : Config) : parse? c.toYaml = some c := by
  have hsimple : c.toData.Simple Yaml.IsKey 4 := c.simple_toData isKey_of_mem_fieldNames
  have htokens : Yaml.Token.ofText? c.toYaml.toList =
      some ((Yaml.Node.ofData c.toData).tokens false) := by
    rw [toYaml, String.toList_ofList]
    exact Yaml.ofText?_render hsimple nofun
  have hdocument : Yaml.Document.ofText? c.toYaml.toList = some (.ofNode (.ofData c.toData)) := by
    rw [Yaml.Document.ofText?, htokens]
    simp [Yaml.Node.ofTokens?_tokens (Yaml.Node.readable_ofData _ hsimple), Yaml.Node.link?_ofData]
  have hshows := Yaml.Value.shows_ofData (.ofNode (.ofData c.toData)) hsimple (by decide)
  rw [parse?, hdocument]
  exact read?_of_shows hshows

/-- The tree of a configuration is read as the configuration, and so is its text. From the text
comes the configuration if it is valid, and else the first rule that it breaks; never does another
configuration. -/
theorem yaml_round_trip (c : Config) :
    read? c.toData = some c ∧ parse? c.toYaml = some c ∧
      (c.validate = .ok () → ofYaml c.toYaml = .ok c) ∧
      (∀ rule, c.validate = .error rule → ofYaml c.toYaml = .error (.config (.invalid rule))) ∧
      ∀ d, ofYaml c.toYaml = .ok d → d = c := by
  have hread : ofYaml c.toYaml = c.validated := by rw [ofYaml, c.parse?_toYaml]
  refine ⟨c.read?_toData, c.parse?_toYaml, fun hvalid => ?_, fun rule hinvalid => ?_,
    fun d hd => ?_⟩
  · rw [hread, validated, hvalid]
  · rw [hread, validated, hinvalid]
  · rw [hread, validated] at hd
    split at hd
    · exact (Except.ok.inj hd).symm
    · cases hd

/-- A configuration with routes, an optional number, and texts that look like numbers, hold signs of
the format or go on over several lines. -/
def intricate : Config where
  server := { workers := some 4, trustForwardedFor := true }
  auth := { secret := some " one: #\n\n\ttwo '\" \n" }
  storage := { keyPrefix := "0o17" }
  routes := [⟨"/a: #b", { byAddress := true, userFor := .ofList [.post, .put] }⟩,
    ⟨"/- 'x", { tokenFree := true }⟩]

/-- It comes back from its text; with port 0 the rule that it breaks comes instead. -/
theorem yaml_round_trip_intricate :
    intricate.validate = .ok () ∧ ofYaml intricate.toYaml = .ok intricate ∧
      { intricate with server := { port := 0 } }.validate = .error .zeroPort ∧
      ofYaml { intricate with server := { port := 0 } }.toYaml =
        .error (.config (.invalid .zeroPort)) := by
  have hvalid : intricate.validate = .ok () := by rfl
  have hinvalid : { intricate with server := { port := 0 } }.validate = .error .zeroPort := by rfl
  obtain ⟨-, -, hread, -, -⟩ := yaml_round_trip intricate
  obtain ⟨-, -, -, hrefused, -⟩ := yaml_round_trip { intricate with server := { port := 0 } }
  exact ⟨hvalid, hread hvalid, hinvalid, hrefused _ hinvalid⟩

end Turnstile.Config
