import Turnstile.App.Server
import Turnstile.Proofs.Gate.Decision

/-!
# What outlines tell of a secret

The outline of a server is for those who maintain it, and they need not know its secret. They are
told whether there is one and whether it is empty, and nothing else: servers whose configurations
differ in the secret alone look alike. A text that is in the outline all the same, because it is a
word of it, is there whatever the secret is.

## Main definitions

- `Config.withSecret` — a configuration with another secret
- `Config.Alike` — secrets that an outline does not tell apart

## Main statements

- `Server.outline_withSecret_eq_iff` — when the outlines of two servers are the same
- `Server.map_outline_build` — building a server tells no more
- `Server.showsSecret_withSecret_iff` — a secret is shown only by chance
-/

namespace Turnstile

namespace Outline

/-- An outline that does not look at what may be missing shows just whether it is. -/
theorem option_const_eq_iff {α : Type} {a b : Option α} {o : Outline} :
    option (fun _ => o) a = option (fun _ => o) b ↔ a.isSome = b.isSome := by
  cases a <;> cases b <;> simp [option]

end Outline

namespace Config

/-- A configuration with another secret. -/
def withSecret (c : Config) (secret : Option String) : Config :=
  { c with auth := { c.auth with secret := secret } }

/-- Secrets that look alike: both are there or neither is, and both are empty or neither is. -/
def Alike (s t : Option String) : Prop :=
  s.isSome = t.isSome ∧ (Gate.given s).isSome = (Gate.given t).isSome

/-- Secrets that are not empty all look alike. -/
theorem alike_of_ne_empty {s t : String} (hs : s ≠ "") (ht : t ≠ "") :
    Alike (some s) (some t) := by
  refine ⟨rfl, ?_⟩
  rw [Gate.given_eq_some_iff.2 ⟨rfl, hs⟩, Gate.given_eq_some_iff.2 ⟨rfl, ht⟩]
  rfl

variable (c : Config) (s t : Option String)

/-- The outline of a configuration shows of a secret just whether there is one. -/
theorem outline_withSecret_eq_iff :
    (c.withSecret s).outline = (c.withSecret t).outline ↔ s.isSome = t.isSome := by
  rw [← Outline.option_const_eq_iff (o := Outline.redacted)]
  simp [outline, withSecret, Auth.outline]

theorem isSome_signer : (c.withSecret s).auth.signer.isSome = (Gate.given s).isSome :=
  Option.isSome_map

end Config

namespace Server

variable (c : Config) (store : Store) (s t : Option String)

/-- The outline of a gate shows of a secret just whether it makes a signer. -/
theorem gateOutline_withSecret_eq_iff :
    gateOutline (App.gateOf (c.withSecret s)) store =
        gateOutline (App.gateOf (c.withSecret t)) store ↔
      (Gate.given s).isSome = (Gate.given t).isSome := by
  have hsigner : Outline.option Signer.outline (c.withSecret s).auth.signer =
        Outline.option Signer.outline (c.withSecret t).auth.signer ↔
      (Gate.given s).isSome = (Gate.given t).isSome := by
    rw [← c.isSome_signer s, ← c.isSome_signer t]
    exact Outline.option_const_eq_iff
  rw [← hsigner]
  simp [gateOutline, App.gateOf, Config.withSecret, Config.gateSettings, Config.Auth.gateSettings,
    Config.Auth.userTokenLifetime]

/-- Two servers that differ in the secret alone have the same outline exactly if the secrets look
alike. -/
theorem outline_withSecret_eq_iff :
    (withStore (c.withSecret s) store).outline = (withStore (c.withSecret t) store).outline ↔
      Config.Alike s t := by
  rw [Config.Alike, ← c.outline_withSecret_eq_iff s t, ← gateOutline_withSecret_eq_iff c store s t]
  simp [outline, withStore, App.ofConfig]

/-- Whether a server can be built or not, what is seen of it tells no more of the secret. -/
theorem map_outline_build (store : Option Store) {s t : Option String} (h : Config.Alike s t) :
    (build (some (c.withSecret s)) store).map outline =
      (build (some (c.withSecret t)) store).map outline := by
  have hsame : ∀ store, (withStore (c.withSecret s) store).outline =
      (withStore (c.withSecret t) store).outline := fun store =>
    (outline_withSecret_eq_iff c store s t).2 h
  cases store with
  | some store => exact congrArg Except.ok (hsame store)
  | none =>
    have hstore : storeFor (c.withSecret s) = storeFor (c.withSecret t) := rfl
    rw [build, build, hstore]
    cases storeFor (c.withSecret t) with
    | error e => rfl
    | ok store => exact congrArg Except.ok (hsame store)

theorem occursIn_iff {part text : List Char} : occursIn part text = true ↔ part <:+: text := by
  induction text with
  | nil => rw [occursIn, decide_eq_true_eq, List.infix_nil]
  | cons c rest ih =>
    rw [occursIn, Bool.or_eq_true, ih, List.isPrefixOf_iff_prefix, List.infix_cons_iff]

/-- A secret is shown exactly if it is a part of what would be shown of any other secret. -/
theorem showsSecret_withSecret_iff {secret other : String} (hsecret : secret ≠ "")
    (hother : other ≠ "") :
    (withStore (c.withSecret (some secret)) store).showsSecret = true ↔
      secret.toList <:+: (withStore (c.withSecret (some other)) store).outline.chars := by
  have hgiven : Gate.given (withStore (c.withSecret (some secret)) store).config.auth.secret =
      some secret := Gate.given_eq_some_iff.2 ⟨rfl, hsecret⟩
  rw [showsSecret, hgiven, ← (outline_withSecret_eq_iff c store _ _).2
    (Config.alike_of_ne_empty hsecret hother)]
  exact occursIn_iff

/-- Secrets beyond some length are never shown. -/
theorem exists_length_of_showsSecret :
    ∃ bound, ∀ secret : String, bound < secret.length →
      (withStore (c.withSecret (some secret)) store).showsSecret = false := by
  refine ⟨(withStore (c.withSecret (some "?")) store).outline.chars.length, fun secret hlong => ?_⟩
  by_contra hshown
  have hne : secret ≠ "" := by
    rintro rfl
    exact Nat.not_lt_zero _ hlong
  have hpart := (showsSecret_withSecret_iff c store hne (by decide : "?" ≠ "")).1
    (Bool.eq_true_of_not_eq_false hshown)
  exact absurd hpart.length_le (Nat.not_le.2 hlong)

end Server

end Turnstile
